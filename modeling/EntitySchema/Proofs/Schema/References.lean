import Mathlib
import EntitySchema.Proofs.Schema.Assembly
/-!
The properties that the keys of indexes are made of.

A schema is closed: its keys name attributes of its own. That is all that is checked of an index,
so once the properties of an entity can be composed, only an entry that names none of them is in
the way, and the first such entry is reported.
-/

namespace EntitySchema

/-! ## Entries of keys -/

def Index.references (index : Index) : List String :=
  index.pk.composite ++ index.sk.elim [] Key.composite

def IndexMetadata.keyEntries (index : IndexMetadata) : List (IndexMetadata × String) :=
  (index.pk.composite ++ index.sk.elim [] KeyMetadata.composite).map fun name => (index, name)

def EntityMetadata.keyEntries (entity : EntityMetadata) : List (IndexMetadata × String) :=
  entity.indexes.flatMap IndexMetadata.keyEntries

/-- The record has a property of the name, and does not only inherit it. -/
def RecordType.Declares (record : RecordType) (name : String) : Prop :=
  ∃ property ∈ record.properties, property.name = name

structure EntityMetadata.IsFirstUndeclared (entity : EntityMetadata) (record : RecordType)
    (entry : IndexMetadata × String) : Prop where
  undeclared : ¬record.Declares entry.2
  first : ∃ before after, entity.keyEntries = before ++ entry :: after ∧
    ∀ earlier ∈ before, record.Declares earlier.2

def EntityMetadata.referenceError (entity : EntityMetadata) (entry : IndexMetadata × String) :
    CompileError :=
  .located (entity.entity ++ "." ++ entry.1.name)
    (.invalidReference entity.entity entry.1.name entry.2)

theorem IndexMetadata.keyEntries_eq (index : IndexMetadata) :
    index.keyEntries = index.compositeReferences.map fun name => (index, name) := by
  unfold keyEntries compositeReferences
  cases index.sk <;> rfl

theorem RecordType.property?_eq_none_iff {record : RecordType} {name : String} :
    record.property? name = none ↔ ¬record.Declares name := by
  simp [property?, Declares]

namespace Schema

variable {graph : Graph} {config : Config} {entity : EntityMetadata} {record : RecordType}
  {schema : Schema}

theorem references_indexOf (metadata : IndexMetadata) :
    (indexOf metadata).references = metadata.compositeReferences := by
  unfold Index.references indexOf keyOf IndexMetadata.compositeReferences
  cases metadata.sk <;> rfl

/-! ## The first entry that is undeclared -/

def firstUndeclared? (record : RecordType) (entries : List (IndexMetadata × String)) :
    Option (IndexMetadata × String) :=
  entries.find? fun entry => (record.property? entry.2).isNone

theorem firstUndeclared?_eq_some_iff {entry : IndexMetadata × String} :
    firstUndeclared? record entity.keyEntries = some entry ↔
      entity.IsFirstUndeclared record entry := by
  have declared (name : String) :
      (!(record.property? name).isNone) = true ↔ record.Declares name := by
    rw [Bool.not_eq_true', Bool.eq_false_iff, Ne, Option.isNone_iff_eq_none,
      RecordType.property?_eq_none_iff, not_not]
  simp only [firstUndeclared?, List.find?_eq_some_iff_append, declared,
    Option.isNone_iff_eq_none, RecordType.property?_eq_none_iff]
  exact ⟨fun both => ⟨both.1, both.2⟩, fun isFirst => ⟨isFirst.undeclared, isFirst.first⟩⟩

theorem firstUndeclared?_eq_none_iff {entries : List (IndexMetadata × String)} :
    firstUndeclared? record entries = none ↔ ∀ entry ∈ entries, record.Declares entry.2 := by
  simp [firstUndeclared?, RecordType.property?_eq_none_iff]

theorem checkedIndex_eq (index : IndexMetadata) :
    checkedIndex entity record index =
      (firstUndeclared? record index.keyEntries).elim (.ok (index.name, indexOf index))
        fun entry => .error (entity.referenceError entry) := by
  rw [checkedIndex, firstUndeclared?, index.keyEntries_eq, List.find?_map]
  simp only [Function.comp_def]
  cases index.compositeReferences.find? fun name => (record.property? name).isNone <;> rfl

/-- Checking the indexes one after another is checking all entries in one go. -/
theorem mapM_checkedIndex_eq (indexes : List IndexMetadata) :
    indexes.mapM (checkedIndex entity record) =
      (firstUndeclared? record (indexes.flatMap IndexMetadata.keyEntries)).elim
        (.ok (indexes.map fun index => (index.name, indexOf index)))
        fun entry => .error (entity.referenceError entry) := by
  induction indexes with
  | nil => rfl
  | cons index rest induction =>
      have inOrder : firstUndeclared? record
          ((index :: rest).flatMap IndexMetadata.keyEntries) =
            (firstUndeclared? record index.keyEntries).or
              (firstUndeclared? record (rest.flatMap IndexMetadata.keyEntries)) := by
        rw [List.flatMap_cons, firstUndeclared?, List.find?_append]
        rfl
      rw [List.mapM_cons, checkedIndex_eq, induction, inOrder]
      cases firstUndeclared? record index.keyEntries with
      | some entry => rfl
      | none => cases firstUndeclared? record (rest.flatMap IndexMetadata.keyEntries) <;> rfl

/-- When the properties of an entity are composed, only the entries of its keys are left to fail. -/
theorem ofEntity_of_composed (config : Config) (ofRecord : entityRecord graph entity = .ok record)
    (composed : ∀ property ∈ record.properties,
      Succeeds (Attribute.compose graph entity property)) :
    ∃ schema, ofEntity graph config entity =
      (firstUndeclared? record entity.keyEntries).elim (.ok schema)
        fun entry => .error (entity.referenceError entry) := by
  have named : Succeeds (record.properties.mapM fun property => do
      return (property.name, ← Attribute.compose graph entity property)) := by
    simpa [succeeds_mapM_iff] using composed
  rcases named with ⟨attributes, ofProperties⟩
  simp only [ofEntity, ofRecord, ofProperties, ok_bind, mapM_checkedIndex_eq]
  refine ⟨?_, ?_⟩
  · exact {
      attributes
      indexes := entity.indexes.map fun index => (index.name, indexOf index)
      identity := identityOf entity config }
  · rw [EntityMetadata.keyEntries]
    cases firstUndeclared? record (entity.indexes.flatMap IndexMetadata.keyEntries) <;> rfl

/-! ## Closed schemas -/

theorem mem_attributes_of_declares (assembled : ofEntity graph config entity = .ok schema)
    (ofRecord : entityRecord graph entity = .ok record) {name : String}
    (declares : record.Declares name) : name ∈ schema.attributes.map Prod.fst := by
  rcases exists_attributes_of_ofEntity assembled with ⟨other, attributeOf, found, attributes, _⟩
  cases (entityRecord_eq_ok_iff.mp ofRecord).2.1.symm.trans found
  rcases declares with ⟨property, member, rfl⟩
  rw [attributes, List.map_map]
  exact List.mem_map_of_mem member

/-- The keys of a schema are made of its attributes. -/
theorem mem_attributes_of_mem_references (assembled : ofEntity graph config entity = .ok schema)
    {entry : String × Index} (isIndex : entry ∈ schema.indexes) {name : String}
    (isReference : name ∈ entry.2.references) : name ∈ schema.attributes.map Prod.fst := by
  rcases ofEntity_eq_ok_iff.mp assembled with ⟨record, ofRecord, _, ofIndexes, _⟩
  apply mem_attributes_of_declares assembled ofRecord
  have known : ∀ entry ∈ schema.indexes, ∀ name ∈ entry.2.references,
      record.property? name ≠ none := by
    refine forall_mem_of_mapM (fun index result checked => ?_) ofIndexes
    rcases checkedIndex_eq_ok_iff.mp checked with ⟨known, rfl⟩
    rwa [references_indexOf]
  exact not_not.mp fun undeclared =>
    known entry isIndex name isReference (RecordType.property?_eq_none_iff.mpr undeclared)

/-- The keys of a schema only name its attributes. Once the record of an entity is found and its
properties are composed, the entity has a schema unless an entry of a key names no property that
the record declares itself, and the first such entry is reported. -/
theorem references_of_ofEntity (graph : Graph) (config : Config) (entity : EntityMetadata) :
    (∀ schema, ofEntity graph config entity = .ok schema → ∀ entry ∈ schema.indexes,
      ∀ name ∈ entry.2.references, name ∈ schema.attributes.map Prod.fst) ∧
    ∀ record, entityRecord graph entity = .ok record →
      (∀ property ∈ record.properties, Succeeds (Attribute.compose graph entity property)) →
      (¬Succeeds (ofEntity graph config entity) ↔
        ∃ entry ∈ entity.keyEntries, ¬record.Declares entry.2) ∧
      ∀ error, ofEntity graph config entity = .error error ↔
        ∃ entry, entity.IsFirstUndeclared record entry ∧ error = entity.referenceError entry := by
  constructor
  · intro schema assembled entry isIndex name isReference
    exact mem_attributes_of_mem_references assembled isIndex isReference
  · intro record ofRecord composed
    rcases ofEntity_of_composed config ofRecord composed with ⟨schema, assembled⟩
    simp only [← firstUndeclared?_eq_some_iff, assembled]
    cases undeclared : firstUndeclared? record entity.keyEntries with
    | none =>
        have declared := firstUndeclared?_eq_none_iff.mp undeclared
        simpa using declared
    | some entry =>
        have isFirst := firstUndeclared?_eq_some_iff.mp undeclared
        have listed : entry ∈ entity.keyEntries := List.mem_of_find?_eq_some undeclared
        refine ⟨?_, fun error => ?_⟩
        · exact iff_of_true (not_succeeds_error _) ⟨entry, listed, isFirst.undeclared⟩
        · simp [eq_comm]

/-- A job belongs to a tenant, but only inherits that property. -/
def jobRecord : RecordType :=
  { name := "Job", properties := [{ name := "jobId", type := ⟨0⟩ }], base := some ⟨1⟩ }

def jobGraph : Graph :=
  { types := #[.scalar { name := "string" },
      .record { name := "Base", properties := [{ name := "tenant", type := ⟨0⟩ }] },
      .record jobRecord] }

def jobsByTenant : IndexMetadata :=
  { name := "byTenant", pk := { composite := ["jobId"] }
    sk := some { composite := ["jobId", "tenant", "title"] } }

def jobEntity (indexes : List IndexMetadata) : EntityMetadata :=
  { node := ⟨2⟩, entity := "Job", indexes }

def jobsById : IndexMetadata := { name := "byId", pk := { composite := ["jobId"] } }

/-- A property that the record inherits is as good as none. -/
theorem references_jobEntity :
    (∃ schema, ofEntity jobGraph {} (jobEntity [jobsById]) = .ok schema ∧
      "jobId" ∈ schema.attributes.map Prod.fst) ∧
    (∃ properties, jobGraph.recordProperties jobRecord = .ok properties ∧
      "tenant" ∈ properties.map Property.name) ∧
    ofEntity jobGraph {} (jobEntity [jobsById, jobsByTenant]) =
      .error (.located "Job.byTenant" (.invalidReference "Job" "byTenant" "tenant")) := by
  have composed (indexes : List IndexMetadata) : ∀ property ∈ jobRecord.properties,
      Succeeds (Attribute.compose jobGraph (jobEntity indexes) property) := by
    intro property member
    rw [List.mem_singleton.mp member]
    exact ⟨_, rfl⟩
  have isFirst : (jobEntity [jobsById, jobsByTenant]).IsFirstUndeclared jobRecord
      (jobsByTenant, "tenant") :=
    firstUndeclared?_eq_some_iff.mp (by decide)
  refine ⟨⟨_, rfl, ?_⟩, ⟨_, rfl, by decide⟩, ?_⟩
  · exact (references_of_ofEntity jobGraph {} (jobEntity [jobsById])).1 _ rfl
      ("byId", indexOf jobsById) List.mem_cons_self "jobId" List.mem_cons_self
  · exact (((references_of_ofEntity jobGraph {} (jobEntity [jobsById, jobsByTenant])).2 jobRecord
      rfl (composed _)).2 _).mpr ⟨_, isFirst, rfl⟩

end Schema

end EntitySchema
