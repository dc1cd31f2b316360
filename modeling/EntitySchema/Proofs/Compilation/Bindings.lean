import Mathlib
import EntitySchema.Proofs.Compilation.Independence
import EntitySchema.Proofs.Value.Grammar
/-!
The names that a generated document binds.

A document binds the name of each entity, and the name of the custom type if it imports that. The
names of entities differ from each other, but an entity may bear the name of the custom type.
-/

namespace EntitySchema

/-! ## Names in the text of a statement -/

def nameBehind? (words : String) (text : List Char) : Option String :=
  (text.dropPrefix? words.toList).map fun rest =>
    String.ofList (rest.takeWhile isIdentifierPart)

def boundName? (statement : String) : Option String :=
  (nameBehind? "import \x7b " statement.toList).or
    ((nameBehind? "export const " statement.toList).or
      (nameBehind? "const " statement.toList))

theorem nameBehind?_append {name : String} (identifier : isIdentifier name = true)
    (words : String) {rest : List Char} (stops : StopsAt isIdentifierPart rest) :
    nameBehind? words (words.toList ++ (name.toList ++ rest)) = some name := by
  have allParts := Value.isIdentifierPart_of_isIdentifierText identifier
  rw [nameBehind?, List.dropPrefix?_append_of_beq _ (beq_self_eq_true _), Option.map_some,
    takeWhile_append_of_stopsAt allParts stops, String.ofList_toList]

theorem boundName?_importLine {config : Config}
    (identifier : isIdentifier config.output.customType = true) :
    boundName? (importLine config) = some config.output.customType := by
  have behind := nameBehind?_append identifier "import \x7b "
    ((stopsAt_cons isIdentifierPart ' ' ("\x7d from ".toList ++
      (quote config.output.importModule).toList ++ [';'])).mpr rfl)
  have text : (importLine config).toList = "import \x7b ".toList ++
      (config.output.customType.toList ++
        ' ' :: ("\x7d from ".toList ++ (quote config.output.importModule).toList ++ [';'])) := by
    simp [importLine]
  rw [boundName?, text, behind, Option.some_or]

theorem boundName?_statement {config : Config} {schema : Schema} {statement : String}
    (identifier : isIdentifier schema.name = true)
    (written : schema.statement config = .ok statement) :
    boundName? statement = some schema.name := by
  unfold Schema.statement at written
  split at written
  · cases written
  · next literal _ =>
      have stops := (stopsAt_cons isIdentifierPart ' ' ("= ".toList ++ literal.toList ++
        [';'])).mpr rfl
      cases exported : config.output.exported with
      | true =>
          have behind := nameBehind?_append identifier "export const " stops
          have text : statement.toList = "export const ".toList ++ (schema.name.toList ++
              ' ' :: ("= ".toList ++ literal.toList ++ [';'])) := by
            simp [← Except.ok.inj written, exported]
          rw [boundName?, text, behind]
          rfl
      | false =>
          have behind := nameBehind?_append identifier "const " stops
          have text : statement.toList = "const ".toList ++ (schema.name.toList ++
              ' ' :: ("= ".toList ++ literal.toList ++ [';'])) := by
            simp [← Except.ok.inj written, exported]
          rw [boundName?, text, behind]
          rfl

/-! ## Names that may be bound -/

theorem isIdentifier_of_nameFault? {name : String} (valid : nameFault? name = none) :
    isIdentifier name = true := by
  unfold nameFault? at valid
  split_ifs at valid with _ notIdentifier _
  simpa using notIdentifier

theorem nameFault?_of_entityNameFault? {name : String} (valid : entityNameFault? name = none) :
    nameFault? name = none := by
  unfold entityNameFault? at valid
  split_ifs at valid
  exact Option.map_eq_none_iff.mp valid

theorem nameFault?_customType {config : Config} (valid : config.fault? = none) :
    nameFault? config.output.customType = none := by
  cases named : nameFault? config.output.customType with
  | none => rfl
  | some fault =>
      simp only [Config.fault?, named] at valid
      split_ifs at valid

variable {graph : Graph} {config : Config} {metadata : Metadata} {artifact : Artifact}

/-- A schema has the name of its entity, which may be bound. -/
theorem name_of_ofEntity {entity : EntityMetadata} {schema : Schema}
    (assembled : Schema.ofEntity graph config entity = .ok schema) :
    schema.name = entity.entity ∧ nameFault? schema.name = none := by
  rcases Schema.ofEntity_eq_ok_iff.mp assembled with ⟨record, found, _, _, identity⟩
  have named : schema.name = entity.entity := by
    rw [Schema.name, ← identity]
    rfl
  exact ⟨named, named ▸ nameFault?_of_entityNameFault? (Schema.entityRecord_eq_ok_iff.mp found).1⟩

theorem Part.IsCompiled.name {part : Part} (compiled : part.IsCompiled graph config) :
    part.schema.name = part.entity.entity ∧ nameFault? part.schema.name = none :=
  name_of_ofEntity (Part.isCompiled_iff.mp compiled).1

theorem Part.IsCompiled.boundName? {part : Part} (compiled : part.IsCompiled graph config) :
    boundName? part.statement = some part.schema.name :=
  boundName?_statement (isIdentifier_of_nameFault? compiled.name.2) compiled.declared

theorem map_name_of_compile (compiled : compile graph metadata config = .ok artifact) :
    artifact.schemas.map Schema.name = metadata.entities.map EntityMetadata.entity := by
  rcases exists_isJoinOf compiled with ⟨parts, entities, joined⟩
  rw [joined.schemas, ← entities, List.map_map, List.map_map]
  exact List.map_congr_left fun part member => (joined.compiled part member).name.1

/-! ## The names of a document -/

def Artifact.boundNames (config : Config) (artifact : Artifact) : List String :=
  (if artifact.usesCustomType then [config.output.customType] else []) ++
    artifact.schemas.map Schema.name

theorem nameFault?_of_mem_boundNames (valid : config.fault? = none)
    (compiled : compile graph metadata config = .ok artifact) {name : String}
    (bound : name ∈ artifact.boundNames config) : nameFault? name = none := by
  rcases List.mem_append.mp bound with imported | declared
  · split_ifs at imported
    · rw [List.mem_singleton.mp imported]
      exact nameFault?_customType valid
    · cases imported
  · rcases exists_isJoinOf compiled with ⟨parts, _, joined⟩
    rw [joined.schemas, List.map_map] at declared
    rcases List.mem_map.mp declared with ⟨part, member, rfl⟩
    exact (joined.compiled part member).name.2

/-- Read off the text, the names of a document are those that were meant. -/
theorem exists_blocks_boundNames (valid : config.fault? = none)
    (compiled : compile graph metadata config = .ok artifact) :
    ∃ blocks, artifact.source = String.intercalate "\n\n" blocks ++ "\n" ∧
      blocks.map boundName? = (artifact.boundNames config).map some := by
  rcases exists_isJoinOf compiled with ⟨parts, _, joined⟩
  refine ⟨_, joined.source, ?_⟩
  have ofStatements : (parts.map Part.statement).map boundName? =
      (artifact.schemas.map Schema.name).map some := by
    rw [joined.schemas, List.map_map, List.map_map, List.map_map]
    exact List.map_congr_left fun part member => (joined.compiled part member).boundName?
  have ofImport := boundName?_importLine (isIdentifier_of_nameFault? (nameFault?_customType valid))
  rw [Artifact.boundNames, List.map_append, List.map_append, ofStatements]
  congr 1
  split_ifs
  · simp [ofImport]
  · rfl

theorem nodup_boundNames_iff (compiled : compile graph metadata config = .ok artifact) :
    (artifact.boundNames config).Nodup ↔
      ¬(artifact.usesCustomType = true ∧
        ∃ entity ∈ metadata.entities, entity.entity = config.output.customType) := by
  have nodup := (compile_eq_ok_iff.mp compiled).1
  rw [Artifact.boundNames, map_name_of_compile compiled]
  by_cases imports : artifact.usesCustomType = true
  · simp [imports, nodup]
  · simp [imports, nodup]

/-- With settings that can be used, a document binds names that may be bound, and those of the
entities differ. All of its names differ unless it imports the custom type and an entity has the
name of that. -/
theorem boundNames_of_compile (valid : config.fault? = none)
    (compiled : compile graph metadata config = .ok artifact) :
    (∃ blocks, artifact.source = String.intercalate "\n\n" blocks ++ "\n" ∧
      blocks.map boundName? = (artifact.boundNames config).map some) ∧
    (∀ name ∈ artifact.boundNames config, nameFault? name = none) ∧
    (artifact.schemas.map Schema.name).Nodup ∧
    ((artifact.boundNames config).Nodup ↔
      ¬(artifact.usesCustomType = true ∧
        ∃ entity ∈ metadata.entities, entity.entity = config.output.customType)) := by
  refine ⟨exists_blocks_boundNames valid compiled,
    fun name bound => nameFault?_of_mem_boundNames valid compiled bound, ?_,
    nodup_boundNames_iff compiled⟩
  rw [map_name_of_compile compiled]
  exact (compile_eq_ok_iff.mp compiled).1

/-- A note that has the name which the custom type has by default. -/
def customNamedNote : EntityMetadata := { node := ⟨3⟩, entity := "CustomAttributeType" }

theorem not_nodup_boundNames_customNamedNote :
    Config.fault? {} = none ∧
      ∃ artifact, compile noteGraph { entities := [customNamedNote] } {} = .ok artifact ∧
        ¬(artifact.boundNames {}).Nodup := by
  obtain ⟨artifact, compiled⟩ : ∃ artifact,
      compile noteGraph { entities := [customNamedNote] } {} = .ok artifact := ⟨_, rfl⟩
  have valid : Config.fault? {} = none := by decide
  have uses : artifact.usesCustomType = true := by
    cases compiled
    rfl
  refine ⟨valid, artifact, compiled, ?_⟩
  rw [(boundNames_of_compile valid compiled).2.2.2, not_not]
  exact ⟨uses, customNamedNote, List.mem_cons_self, rfl⟩

end EntitySchema
