import Mathlib
import EntitySchema.Proofs.WellFormedType
import EntitySchema.Proofs.Compilation.Independence
/-!
When a document imports the custom type.

It does so if the custom type is constructed in the declaration of some attribute. No other code in
the declaration of a type could be mistaken for that.
-/

namespace EntitySchema

variable {graph : Graph} {config : Config} {metadata : Metadata} {artifact : Artifact}

def IsCustomTypeCode (graph : Graph) (config : Config) (code : String) : Prop :=
  ∃ id union expression, graph.get? id = some (.union union) ∧
    graph.typeExpression id = .ok expression ∧
    code = config.output.customType ++ "<" ++ expression ++ ">(\"any\")"

def StartsWithImport (config : Config) (text : String) : Prop :=
  ∃ rest, text = importLine config ++ "\n" ++ rest

/-! ## The declaration of a type -/

section Types

variable {id : TypeId} {type : AttributeType}

theorem isCustomTypeCode_of_mem_sources (mapped : graph.attributeType id = .ok type) {code : String}
    (member : code ∈ (Value.record (type.members config)).sources) :
    IsCustomTypeCode graph config code := by
  rw [AttributeType.sources_members (Graph.isWellFormed_of_attributeType mapped),
    List.mem_map] at member
  rcases member with ⟨expression, inType, rfl⟩
  rcases Graph.exists_union_of_mem_customExpressions mapped expression inType with
    ⟨union, node, found, written⟩
  exact ⟨union, node, expression, found, written, rfl⟩

theorem usesCustomType_iff_sources (config : Config) (mapped : graph.attributeType id = .ok type) :
    type.usesCustomType = true ↔ (Value.record (type.members config)).sources ≠ [] := by
  have wellFormed := Graph.isWellFormed_of_attributeType mapped
  rw [AttributeType.usesCustomType_iff wellFormed, AttributeType.sources_members wellFormed, ne_eq,
    ne_eq, List.map_eq_nil_iff]

end Types

/-! ## Schemas -/

theorem Schema.exists_attributeType_of_mem {entity : EntityMetadata} {schema : Schema}
    (assembled : ofEntity graph config entity = .ok schema) {entry : String × Attribute}
    (member : entry ∈ schema.attributes) : ∃ id, graph.attributeType id = .ok entry.2.type := by
  rcases exists_attributes_of_ofEntity assembled with ⟨record, attributeOf, _, attributes, composed⟩
  rw [attributes] at member
  rcases List.mem_map.mp member with ⟨property, listed, rfl⟩
  exact ⟨property.type, Attribute.attributeType_of_compose (composed property listed)⟩

/-- The schema needs the custom type if the declaration of one of its attributes constructs it. -/
theorem Schema.usesCustomType_iff {entity : EntityMetadata} {schema : Schema}
    (assembled : ofEntity graph config entity = .ok schema) :
    schema.usesCustomType = true ↔ ∃ entry ∈ schema.attributes,
      ∃ code ∈ (Value.record (entry.2.type.members config)).sources,
        IsCustomTypeCode graph config code := by
  rw [usesCustomType, List.any_eq_true]
  refine exists_congr fun entry => and_congr_right fun member => ?_
  rcases exists_attributeType_of_mem assembled member with ⟨id, mapped⟩
  rw [usesCustomType_iff_sources config mapped]
  constructor
  · intro nonempty
    rcases List.exists_mem_of_ne_nil _ nonempty with ⟨code, inSources⟩
    exact ⟨code, inSources, isCustomTypeCode_of_mem_sources mapped inSources⟩
  · intro constructed
    rcases constructed with ⟨code, inSources, _⟩
    exact List.ne_nil_of_mem inSources

/-! ## Documents -/

theorem head?_statement {schema : Schema} {statement : String}
    (declared : schema.statement config = .ok statement) :
    ∃ first ∈ ['e', 'c'], statement.toList.head? = some first := by
  unfold Schema.statement at declared
  split at declared
  · cases declared
  · cases declared
    split_ifs
    · exact ⟨'e', by decide, by simp⟩
    · exact ⟨'c', by decide, by simp⟩

theorem head?_intercalate {text : List Char} (nonempty : text ≠ []) (separator : List Char)
    (rest : List (List Char)) : (List.intercalate separator (text :: rest)).head? = text.head? := by
  cases rest with
  | nil => simp
  | cons next rest =>
      rw [List.intercalate_cons_cons, List.append_assoc, List.head?_append_of_ne_nil _ nonempty]

/-- A document without the import starts with a declaration, or is empty. -/
theorem not_startsWithImport_statements {schemas : List Schema} {statements : List String}
    (declared : List.Forall₂ (fun schema statement => schema.statement config = .ok statement)
      schemas statements) : ¬StartsWithImport config (sourceText config false statements) := by
  intro starts
  rcases starts with ⟨rest, text⟩
  have first : (sourceText config false statements).toList.head? = some 'i' := by
    rw [text]
    simp [importLine]
  cases declared with
  | nil => simp [sourceText] at first
  | @cons schema statement schemas statements ofFirst _ =>
      rcases head?_statement ofFirst with ⟨other, member, ofStatement⟩
      have nonempty : statement.toList ≠ [] := by
        intro empty
        simp [empty] at ofStatement
      simp [sourceText, String.toList_intercalate, head?_intercalate nonempty, ofStatement] at first
      simp [first] at member

theorem sourceText_import (config : Config) (statement : String) (statements : List String) :
    sourceText config true (statement :: statements) =
      importLine config ++ "\n" ++
        ("\n" ++ String.intercalate "\n\n" (statement :: statements) ++ "\n") := by
  apply String.toList_inj.mp
  simp [sourceText, String.toList_intercalate]

theorem startsWithImport_iff (compiled : compile graph metadata config = .ok artifact) :
    StartsWithImport config artifact.source ↔ artifact.usesCustomType = true := by
  rcases compile_eq_ok_iff.mp compiled with ⟨_, _, uses, statements, declared, source⟩
  rw [source]
  cases imports : artifact.usesCustomType with
  | false => simpa using not_startsWithImport_statements declared
  | true =>
      rw [imports] at uses
      -- A schema needs the import, so a declaration follows it.
      cases statements with
      | nil =>
          rw [List.forall₂_nil_right_iff.mp declared] at uses
          cases uses
      | cons statement statements =>
          exact iff_of_true ⟨_, sourceText_import config statement statements⟩ rfl

/-- The attribute types of a graph are well formed. A custom type occurs in one just if its
declaration holds code, and all such code constructs the custom type for the expression of a union.
A document imports the custom type just if there is such code in the type of some attribute. -/
theorem customType_imported_iff_declared (graph : Graph) (config : Config) :
    (∀ id type, graph.attributeType id = .ok type →
      type.IsWellFormed ∧
      (type.usesCustomType = true ↔ (Value.record (type.members config)).sources ≠ []) ∧
      ∀ code ∈ (Value.record (type.members config)).sources, IsCustomTypeCode graph config code) ∧
    ∀ metadata artifact, compile graph metadata config = .ok artifact →
      (StartsWithImport config artifact.source ↔
        ∃ schema ∈ artifact.schemas, ∃ entry ∈ schema.attributes,
          ∃ code ∈ (Value.record (entry.2.type.members config)).sources,
            IsCustomTypeCode graph config code) := by
  refine ⟨fun id type mapped => ?_, fun metadata artifact compiled => ?_⟩
  · exact ⟨Graph.isWellFormed_of_attributeType mapped, usesCustomType_iff_sources config mapped,
      fun code member => isCustomTypeCode_of_mem_sources mapped member⟩
  · rcases compile_eq_ok_iff.mp compiled with ⟨_, assembled, uses, _⟩
    rw [startsWithImport_iff compiled, uses, needCustomType, List.any_eq_true]
    refine exists_congr fun schema => and_congr_right fun member => ?_
    rcases Schema.exists_entity_of_forall₂ assembled member with ⟨entity, _, ofEntity⟩
    exact Schema.usesCustomType_iff ofEntity

/-- A note whose body may be null needs the custom type. -/
theorem customType_imported_noteGraph :
    ∃ artifact, compile noteGraph (.only noteEntity) {} = .ok artifact ∧
      StartsWithImport {} artifact.source := by
  have written : noteGraph.typeExpression ⟨2⟩ = .ok "string | null" := by decide +kernel
  refine ⟨_, rfl, ?_⟩
  apply ((customType_imported_iff_declared noteGraph {}).2 (.only noteEntity) _ rfl).mpr
  exact ⟨_, List.mem_cons_self, _, List.mem_cons_self, _, List.mem_cons_self,
    ⟨2⟩, _, _, rfl, written, rfl⟩

end EntitySchema
