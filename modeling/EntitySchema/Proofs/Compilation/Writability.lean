import Mathlib
import EntitySchema.Proofs.Compilation.Failure
import EntitySchema.Proofs.Schema.Content
/-!
Every schema can be declared.

A value that cannot be written holds a number that is not finite, or blank code. The numbers of a
schema stand in its graph, and none of its code is blank, as long as the settings can be used.
-/

namespace EntitySchema

variable {graph : Graph} {config : Config} {metadata : Metadata}

/-! ## Code that is not blank -/

theorem isBlankText_eq_false_of_mem {text : String} {character : Char}
    (member : character ∈ text.toList) (visible : isBlank character = false) :
    isBlankText text = false := by
  rw [isBlankText, List.all_eq_false]
  exact ⟨character, member, by simp [visible]⟩

theorem isBlankText_nowSource (valid : config.fault? = none) :
    isBlankText config.timestamps.nowSource = false := by
  simp only [Config.fault?, nameFault?_customType valid] at valid
  split_ifs at valid with _ _ _ _ blank
  simpa using blank

theorem IsGeneratedCode.isBlankText_eq_false {code : String} (valid : config.fault? = none)
    (generated : IsGeneratedCode graph config code) : isBlankText code = false := by
  cases generated with
  | now => exact isBlankText_nowSource valid
  | customType written =>
      have bracket (expression : String) :
          '<' ∈ (customTypeSource config expression).toList := by
        simp [customTypeSource]
      exact isBlankText_eq_false_of_mem (bracket _) (by decide)
  | validator validator =>
      have arrow : '>' ∈ validator.source.toList := by
        simp [Validator.source]
      exact isBlankText_eq_false_of_mem arrow (by decide)

/-! ## Declarations -/

theorem Value.IsDrawn.fault?_eq_none {value : Value} (finite : AreFinite graph.numbers)
    (valid : config.fault? = none) (drawn : value.IsDrawn graph config) :
    value.fault? = none := by
  rw [fault?_eq_none_iff]
  constructor
  · intro number member
    exact finite number (drawn _ member)
  · intro code member
    have generated : IsGeneratedCode graph config code := drawn _ (mem_sources.mp member)
    exact generated.isBlankText_eq_false valid

theorem Schema.succeeds_statement {entity : EntityMetadata} {schema : Schema}
    (finite : AreFinite graph.numbers) (valid : config.fault? = none)
    (assembled : ofEntity graph config entity = .ok schema) :
    Succeeds (schema.statement config) := by
  have writable := (isDrawn_of_ofEntity assembled).fault?_eq_none finite valid
  simp [statement, Value.write, writable]

theorem succeeds_document {schemas : List Schema} (finite : AreFinite graph.numbers)
    (valid : config.fault? = none) (assembled : assemble graph metadata config = .ok schemas) :
    Succeeds (document config schemas) := by
  simp only [document, bind_pure_comp, succeeds_map_iff, succeeds_mapM_iff]
  intro schema member
  rcases Schema.exists_entity_of_mem assembled member with ⟨entity, _, ofEntity⟩
  exact Schema.succeeds_statement finite valid ofEntity

/-- In a model whose numbers are finite, schemas that were assembled can be declared, and no value
is ever refused. -/
theorem exists_document_of_assemble (finite : AreFinite graph.numbers)
    (valid : config.fault? = none) :
    (∀ schemas, assemble graph metadata config = .ok schemas →
      ∃ source, document config schemas = .ok source) ∧
    ∀ location reason,
      compile graph metadata config ≠ .error (.located location (.unsupportedValue reason)) := by
  refine ⟨fun schemas assembled => succeeds_document finite valid assembled, ?_⟩
  intro location reason failed
  rcases exists_entity_of_compile_error failed with ⟨name, impossible⟩ | ⟨entity, _, ofEntity⟩
  · cases impossible
  · rcases compile_only_eq_error_iff.mp ofEntity with unassembled | ⟨schema, assembled, undeclared⟩
    · -- Assembly has faults of its own, but writes no values.
      rcases ofEntity_eq_error unassembled with ⟨_, _, fault, equal, ofModel⟩
      cases equal
      cases ofModel
    · rcases Schema.succeeds_statement finite valid assembled with ⟨statement, declared⟩
      cases declared.symm.trans undeclared

/-- A parcel with numbers in a bound, in a default and among the values of an enum, and with code of
all kinds. -/
def parcelGraph : Graph :=
  { types := #[
      .scalar { name := "float64" },
      .scalar
        { name := "Weight"
          base := some ⟨0⟩
          facets := { minValue := some (.float .zero) } },
      .enum
        { name := "State"
          members := [
            { name := "sent" }, { name := "lost", value := some (.number (.int (-1))) }] },
      .null,
      .union { variants := [⟨1⟩, ⟨3⟩] },
      .record
        { name := "Parcel"
          properties := [
            { name := "weight", type := ⟨1⟩, default := some (.number (.float (.ofInt 5))) },
            { name := "state", type := ⟨2⟩, default := some (.enumMember ⟨2⟩ "lost") },
            { name := "returned", type := ⟨4⟩ },
            { name := "sentAt", type := ⟨0⟩ }] }] }

def parcelEntity : EntityMetadata :=
  { node := ⟨5⟩
    entity := "Parcel"
    properties := SortedMap.empty.insert "sentAt" { timestamp := some { kind := .created } } }

theorem exists_document_parcelGraph :
    AreFinite parcelGraph.numbers ∧ Config.fault? {} = none ∧
      ∃ schemas, assemble parcelGraph (.only parcelEntity) {} = .ok schemas ∧
        ∃ source, document {} schemas = .ok source := by
  have finite : AreFinite parcelGraph.numbers := by decide +kernel
  have valid : Config.fault? {} = none := by decide
  obtain ⟨schemas, assembled⟩ : ∃ schemas,
      assemble parcelGraph (.only parcelEntity) {} = .ok schemas := ⟨_, rfl⟩
  exact ⟨finite, valid, schemas, assembled,
    (exists_document_of_assemble finite valid).1 schemas assembled⟩

end EntitySchema
