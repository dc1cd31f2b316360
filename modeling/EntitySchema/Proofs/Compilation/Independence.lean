import Mathlib
import EntitySchema.Proofs.Schema.Assembly
/-!
Entities are compiled independently of each other.

The only thing that the entities of a model have to do with each other is that their names differ.
The artifact of all of them is put together from parts, one for each entity, and each part is what
its entity compiles to alone.
-/

namespace EntitySchema

variable {graph : Graph} {config : Config} {metadata : Metadata} {artifact : Artifact}

/-! ## Parts -/

def Metadata.only (entity : EntityMetadata) : Metadata := { entities := [entity] }

structure Part where
  entity : EntityMetadata
  schema : Schema
  statement : String

/-- The entity compiles to the schema when it is alone, and the schema is declared by the
statement. -/
structure Part.IsCompiled (graph : Graph) (config : Config) (part : Part) : Prop where
  alone : ∃ artifact, compile graph (.only part.entity) config = .ok artifact ∧
    artifact.schemas = [part.schema]
  declared : part.schema.statement config = .ok part.statement

theorem Part.isCompiled_iff {part : Part} :
    part.IsCompiled graph config ↔
      Schema.ofEntity graph config part.entity = .ok part.schema ∧
        part.schema.statement config = .ok part.statement := by
  constructor
  · rintro ⟨⟨artifact, compiled, schemas⟩, declared⟩
    rcases compile_eq_ok_iff.mp compiled with ⟨_, assembled, _⟩
    rw [schemas] at assembled
    exact ⟨(List.forall₂_cons.mp assembled).1, declared⟩
  · rintro ⟨assembled, declared⟩
    refine ⟨⟨⟨sourceText config (needCustomType [part.schema]) [part.statement], [part.schema],
      needCustomType [part.schema]⟩, ?_, rfl⟩, declared⟩
    exact compile_eq_ok_iff.mpr ⟨List.nodup_singleton _, .cons assembled .nil, rfl,
      [part.statement], .cons declared .nil, rfl⟩

/-- The custom type that a part needs is needed by its entity alone. -/
theorem Part.IsCompiled.usesCustomType_iff {part : Part} (compiled : part.IsCompiled graph config) :
    part.schema.usesCustomType = true ↔
      ∃ alone, compile graph (.only part.entity) config = .ok alone ∧
        alone.usesCustomType = true := by
  have schemaOf : ∀ alone, compile graph (.only part.entity) config = .ok alone →
      alone.usesCustomType = part.schema.usesCustomType := by
    rcases compiled.alone with ⟨first, ofFirst, schemas⟩
    intro alone ofAlone
    cases ofFirst.symm.trans ofAlone
    rcases compile_eq_ok_iff.mp ofFirst with ⟨_, _, uses, _⟩
    rw [uses, schemas]
    simp [needCustomType]
  constructor
  · intro uses
    rcases compiled.alone with ⟨alone, ofAlone, _⟩
    exact ⟨alone, ofAlone, (schemaOf alone ofAlone).trans uses⟩
  · rintro ⟨alone, ofAlone, uses⟩
    exact (schemaOf alone ofAlone).symm.trans uses

structure Artifact.IsJoinOf (graph : Graph) (config : Config) (artifact : Artifact)
    (parts : List Part) : Prop where
  compiled : ∀ part ∈ parts, part.IsCompiled graph config
  schemas : artifact.schemas = parts.map Part.schema
  usesCustomType : artifact.usesCustomType = true ↔
    ∃ part ∈ parts, ∃ alone, compile graph (.only part.entity) config = .ok alone ∧
      alone.usesCustomType = true
  source : artifact.source =
    String.intercalate "\n\n"
      ((if artifact.usesCustomType then [importLine config] else []) ++
        parts.map Part.statement) ++ "\n"

theorem needCustomType_map_schema {parts : List Part}
    (compiled : ∀ part ∈ parts, part.IsCompiled graph config) :
    needCustomType (parts.map Part.schema) = true ↔
      ∃ part ∈ parts, ∃ alone, compile graph (.only part.entity) config = .ok alone ∧
        alone.usesCustomType = true := by
  rw [needCustomType, List.any_map, List.any_eq_true]
  refine exists_congr fun part => and_congr_right fun member => ?_
  exact (compiled part member).usesCustomType_iff

/-- Schemas and statements of some entities make up parts. -/
theorem exists_parts {entities : List EntityMetadata} {schemas : List Schema}
    {statements : List String}
    (assembled : List.Forall₂
      (fun entity schema => Schema.ofEntity graph config entity = .ok schema) entities schemas)
    (written : List.Forall₂ (fun schema statement => schema.statement config = .ok statement)
      schemas statements) :
    ∃ parts : List Part, parts.map Part.entity = entities ∧ parts.map Part.schema = schemas ∧
      parts.map Part.statement = statements ∧ ∀ part ∈ parts, part.IsCompiled graph config := by
  induction assembled generalizing statements with
  | nil =>
      cases written
      exact ⟨[], rfl, rfl, rfl, by simp⟩
  | @cons entity schema _ _ ofFirst _ induction =>
      rcases List.forall₂_cons_left_iff.mp written with ⟨statement, others, declared, inRest, rfl⟩
      rcases induction inRest with ⟨parts, rfl, rfl, rfl, compiled⟩
      refine ⟨⟨entity, schema, statement⟩ :: parts, rfl, rfl, rfl, ?_⟩
      exact List.forall_mem_cons.mpr ⟨Part.isCompiled_iff.mpr ⟨ofFirst, declared⟩, compiled⟩

theorem exists_isJoinOf (compiled : compile graph metadata config = .ok artifact) :
    ∃ parts, parts.map Part.entity = metadata.entities ∧
      artifact.IsJoinOf graph config parts := by
  rcases compile_eq_ok_iff.mp compiled with ⟨_, assembled, uses, statements, written, source⟩
  rcases exists_parts assembled written with ⟨parts, entities, schemas, rfl, each⟩
  refine ⟨parts, entities, each, schemas.symm, ?_, source⟩
  rw [uses, ← schemas, needCustomType_map_schema each]

/-- Parts of entities with different names can be put together. -/
theorem exists_compile_of_parts {parts : List Part}
    (entities : parts.map Part.entity = metadata.entities)
    (nodup : (metadata.entities.map EntityMetadata.entity).Nodup)
    (each : ∀ part ∈ parts, part.IsCompiled graph config) :
    ∃ artifact, compile graph metadata config = .ok artifact ∧
      artifact.IsJoinOf graph config parts := by
  have uses := needCustomType_map_schema each
  refine ⟨⟨sourceText config (needCustomType (parts.map Part.schema)) (parts.map Part.statement),
    parts.map Part.schema, needCustomType (parts.map Part.schema)⟩, ?_, each, rfl, uses, rfl⟩
  refine compile_eq_ok_iff.mpr ⟨nodup, ?_, rfl, parts.map Part.statement, ?_, rfl⟩
  · rw [← entities, List.forall₂_map_left_iff, List.forall₂_map_right_iff, List.forall₂_same]
    exact fun part member => (Part.isCompiled_iff.mp (each part member)).1
  · rw [List.forall₂_map_left_iff, List.forall₂_map_right_iff, List.forall₂_same]
    exact fun part member => (each part member).declared

theorem exists_part_of_compile {entity : EntityMetadata}
    (succeeds : Succeeds (compile graph (.only entity) config)) :
    ∃ part : Part, part.entity = entity ∧ part.IsCompiled graph config := by
  rcases succeeds with ⟨artifact, compiled⟩
  rcases exists_isJoinOf compiled with ⟨parts, entities, joined⟩
  rcases List.map_eq_singleton_iff.mp entities with ⟨part, rfl, rfl⟩
  exact ⟨part, rfl, joined.compiled part List.mem_cons_self⟩

theorem exists_parts_of_alone {entities : List EntityMetadata}
    (each : ∀ entity ∈ entities, Succeeds (compile graph (.only entity) config)) :
    ∃ parts : List Part, parts.map Part.entity = entities ∧
      ∀ part ∈ parts, part.IsCompiled graph config := by
  induction entities with
  | nil => exact ⟨[], rfl, by simp⟩
  | cons entity rest induction =>
      rcases List.forall_mem_cons.mp each with ⟨ofFirst, ofRest⟩
      rcases exists_part_of_compile ofFirst with ⟨part, rfl, compiled⟩
      rcases induction ofRest with ⟨parts, rfl, compiledRest⟩
      exact ⟨part :: parts, rfl, List.forall_mem_cons.mpr ⟨compiled, compiledRest⟩⟩

theorem succeeds_compile_iff :
    Succeeds (compile graph metadata config) ↔
      (metadata.entities.map EntityMetadata.entity).Nodup ∧
        ∀ entity ∈ metadata.entities, Succeeds (compile graph (.only entity) config) := by
  constructor
  · rintro ⟨artifact, compiled⟩
    refine ⟨(compile_eq_ok_iff.mp compiled).1, fun entity member => ?_⟩
    rcases exists_isJoinOf compiled with ⟨parts, entities, joined⟩
    rw [← entities] at member
    rcases List.mem_map.mp member with ⟨part, inParts, rfl⟩
    rcases (joined.compiled part inParts).alone with ⟨alone, ofAlone, _⟩
    exact ⟨alone, ofAlone⟩
  · rintro ⟨nodup, each⟩
    rcases exists_parts_of_alone each with ⟨parts, entities, compiled⟩
    rcases exists_compile_of_parts entities nodup compiled with ⟨artifact, ofMetadata, _⟩
    exact ⟨artifact, ofMetadata⟩

/-! ## Other orders -/

/-- What the entities compile to does not depend on their order, apart from the order of the
parts. -/
theorem exists_compile_of_perm {other : Metadata} {parts : List Part}
    (reordered : other.entities.Perm metadata.entities)
    (nodup : (metadata.entities.map EntityMetadata.entity).Nodup)
    (entities : parts.map Part.entity = metadata.entities)
    (joined : artifact.IsJoinOf graph config parts) :
    ∃ artifact' parts', compile graph other config = .ok artifact' ∧ parts'.Perm parts ∧
      parts'.map Part.entity = other.entities ∧ artifact'.IsJoinOf graph config parts' ∧
      artifact'.usesCustomType = artifact.usesCustomType := by
  -- The parts are related to the entities one by one, so they can be reordered with them.
  have related :
      List.Forall₂ (fun entity part => entity = part.entity) metadata.entities parts := by
    rw [← entities, List.forall₂_map_left_iff, List.forall₂_same]
    exact fun _ _ => rfl
  rcases List.perm_comp_forall₂ reordered related with ⟨parts', relatedToo, sameParts⟩
  have entities' : parts'.map Part.entity = other.entities := by
    rw [← List.forall₂_eq_eq_eq, List.forall₂_map_left_iff]
    exact relatedToo.flip.imp fun _ _ equal => equal.symm
  have each : ∀ part ∈ parts', part.IsCompiled graph config := fun part member =>
    joined.compiled part (sameParts.mem_iff.mp member)
  have nodup' := ((reordered.map EntityMetadata.entity).nodup_iff).mpr nodup
  rcases exists_compile_of_parts entities' nodup' each with ⟨artifact', compiled, joined'⟩
  refine ⟨artifact', parts', compiled, sameParts, entities', joined', ?_⟩
  rw [Bool.eq_iff_iff, joined'.usesCustomType, joined.usesCustomType]
  exact exists_congr fun part => and_congr_left fun _ => sameParts.mem_iff

/-- Entities compile together if and only if their names differ and each of them compiles alone. The
artifact is then put together from what the entities compile to alone, and another order of the
entities only changes the order of its parts. -/
theorem compile_entities_independently (graph : Graph) (config : Config) (metadata : Metadata) :
    (Succeeds (compile graph metadata config) ↔
      (metadata.entities.map EntityMetadata.entity).Nodup ∧
        ∀ entity ∈ metadata.entities, Succeeds (compile graph (.only entity) config)) ∧
    ∀ artifact, compile graph metadata config = .ok artifact →
      ∃ parts, parts.map Part.entity = metadata.entities ∧
        artifact.IsJoinOf graph config parts ∧
        ∀ other : Metadata, other.entities.Perm metadata.entities →
          ∃ artifact' parts', compile graph other config = .ok artifact' ∧ parts'.Perm parts ∧
            parts'.map Part.entity = other.entities ∧ artifact'.IsJoinOf graph config parts' ∧
            artifact'.usesCustomType = artifact.usesCustomType := by
  refine ⟨succeeds_compile_iff, fun artifact compiled => ?_⟩
  rcases exists_isJoinOf compiled with ⟨parts, entities, joined⟩
  have nodup := (compile_eq_ok_iff.mp compiled).1
  exact ⟨parts, entities, joined, fun other reordered =>
    exists_compile_of_perm reordered nodup entities joined⟩

def noteGraph : Graph :=
  { types := #[.scalar { name := "string" }, .null, .union { variants := [⟨0⟩, ⟨1⟩] },
      .record { name := "Note", properties := [{ name := "body", type := ⟨2⟩ }] }] }

def noteEntity : EntityMetadata := { node := ⟨3⟩, entity := "Note" }

def memoEntity : EntityMetadata := { node := ⟨3⟩, entity := "Memo", version := some "2" }

theorem compile_noteGraph_reordered :
    ∃ artifact artifact',
      compile noteGraph { entities := [noteEntity, memoEntity] } {} = .ok artifact ∧
      compile noteGraph { entities := [memoEntity, noteEntity] } {} = .ok artifact' ∧
      artifact'.schemas.Perm artifact.schemas ∧
      artifact'.usesCustomType = artifact.usesCustomType := by
  obtain ⟨artifact, compiled⟩ : ∃ artifact,
      compile noteGraph { entities := [noteEntity, memoEntity] } {} = .ok artifact := ⟨_, rfl⟩
  rcases (compile_entities_independently _ _ _).2 artifact compiled with
    ⟨parts, _, joined, reorder⟩
  rcases reorder { entities := [memoEntity, noteEntity] } (.swap ..) with
    ⟨artifact', parts', compiledToo, sameParts, _, joinedToo, sameUse⟩
  refine ⟨artifact, artifact', compiled, compiledToo, ?_, sameUse⟩
  rw [joinedToo.schemas, joined.schemas]
  exact sameParts.map Part.schema

end EntitySchema
