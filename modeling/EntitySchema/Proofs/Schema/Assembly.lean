import Mathlib
import EntitySchema.Compilation
import EntitySchema.Proofs.Except
/-!
What a schema is assembled from: the properties of the record of its entity, and the indexes that
the metadata of the entity lists. A document declares the schemas of all entities.
-/

namespace EntitySchema

namespace Schema

variable {graph : Graph} {config : Config} {entity : EntityMetadata} {record : RecordType}
  {schema : Schema}

/-- An entity has to have a name that can be bound, and to be annotated on a record that does not
stand for an array. -/
theorem entityRecord_eq_ok_iff : entityRecord graph entity = .ok record ↔
    entityNameFault? entity.entity = none ∧ graph.get? entity.node = some (.record record) ∧
      record.arrayElement? = none := by
  unfold entityRecord
  cases named : entityNameFault? entity.entity with
  | some fault => simp
  | none =>
      cases found : graph.get? entity.node with
      | none => simp [Graph.get, found]
      | some node =>
          cases node with
          | record other =>
              cases shape : other.arrayElement? with
              | none =>
                  simp only [Graph.get, found, shape]
                  constructor
                  · intro equal
                    cases equal
                    exact ⟨trivial, rfl, shape⟩
                  · rintro ⟨_, equal, _⟩
                    cases equal
                    rfl
              | some element =>
                  simp only [Graph.get, found, shape]
                  constructor
                  · intro failed
                    cases failed
                  · rintro ⟨_, equal, plain⟩
                    cases equal
                    simp [shape] at plain
          | _ => simp [Graph.get, found]

theorem checkedIndex_eq_ok_iff {index : IndexMetadata} {entry : String × Index} :
    checkedIndex entity record index = .ok entry ↔
      (∀ name ∈ index.compositeReferences, record.property? name ≠ none) ∧
        (index.name, indexOf index) = entry := by
  unfold checkedIndex
  cases missing : index.compositeReferences.find? fun name => (record.property? name).isNone with
  | some name =>
      have unknown := List.find?_some missing
      have listed := List.mem_of_find?_eq_some missing
      simp only [reduceCtorEq, false_iff, not_and]
      exact fun known => absurd (Option.isNone_iff_eq_none.mp unknown) (known name listed)
  | none =>
      have known := List.find?_eq_none.mp missing
      simp only [Option.isNone_iff_eq_none] at known
      exact ⟨fun equal => ⟨known, Except.ok.inj equal⟩, fun both => congrArg Except.ok both.2⟩

theorem ofEntity_eq_ok_iff : ofEntity graph config entity = .ok schema ↔
    ∃ record, entityRecord graph entity = .ok record ∧
      (record.properties.mapM fun property => do
        return (property.name, ← Attribute.compose graph entity property)) =
          .ok schema.attributes ∧
      entity.indexes.mapM (checkedIndex entity record) = .ok schema.indexes ∧
      identityOf entity config = schema.identity := by
  simp only [ofEntity, bind_eq_ok_iff]
  constructor
  · rintro ⟨record, ofRecord, attributes, ofProperties, indexes, ofIndexes, equal⟩
    cases equal
    exact ⟨record, ofRecord, ofProperties, ofIndexes, rfl⟩
  · rintro ⟨record, ofRecord, ofProperties, ofIndexes, identity⟩
    refine ⟨record, ofRecord, _, ofProperties, _, ofIndexes, ?_⟩
    rw [identity]
    rfl

/-- The attributes of a schema are those of the properties that the record declares itself. -/
theorem exists_attributes_of_ofEntity (assembled : ofEntity graph config entity = .ok schema) :
    ∃ (record : RecordType) (attributeOf : Property → Attribute),
      graph.get? entity.node = some (.record record) ∧
      schema.attributes =
        record.properties.map (fun property => (property.name, attributeOf property)) ∧
      ∀ property ∈ record.properties,
        Attribute.compose graph entity property = .ok (attributeOf property) := by
  rcases ofEntity_eq_ok_iff.mp assembled with ⟨record, ofRecord, ofProperties, _⟩
  have nonempty : Nonempty Attribute := ⟨{ type := .string }⟩
  rcases mapM_named_eq_ok_iff.mp ofProperties with ⟨attributeOf, attributes, composed⟩
  exact ⟨record, attributeOf, (entityRecord_eq_ok_iff.mp ofRecord).2.1, attributes.symm, composed⟩

theorem indexes_of_ofEntity (assembled : ofEntity graph config entity = .ok schema) :
    schema.indexes = entity.indexes.map fun index => (index.name, indexOf index) := by
  rcases ofEntity_eq_ok_iff.mp assembled with ⟨record, _, _, ofIndexes, _⟩
  have each := mapM_eq_ok_iff.mp ofIndexes
  simp only [checkedIndex_eq_ok_iff] at each
  have mapped := each.imp fun _ _ both => both.2
  rw [← List.forall₂_map_left_iff (f := fun index : IndexMetadata => (index.name, indexOf index)),
    List.forall₂_eq_eq_eq] at mapped
  exact mapped.symm

/-- Entities are assembled if each of them is, and their names are new. -/
theorem ofEntities_eq_ok_iff {taken : List String} {entities : List EntityMetadata}
    {schemas : List Schema} :
    ofEntities graph config taken entities = .ok schemas ↔
      List.Forall₂ (fun entity schema => ofEntity graph config entity = .ok schema)
        entities schemas ∧
      (entities.map EntityMetadata.entity).Nodup ∧
      ∀ entity ∈ entities, entity.entity ∉ taken := by
  induction entities generalizing taken schemas with
  | nil => simp [ofEntities, eq_comm]
  | cons entity rest induction =>
      rw [ofEntities, List.forall₂_cons_left_iff, List.map_cons, List.nodup_cons,
        List.forall_mem_cons]
      by_cases isTaken : entity.entity ∈ taken
      · simp [isTaken]
      · rw [if_neg (by simpa using isTaken), bind_eq_ok_iff]
        simp only [bind_eq_ok_iff, induction, List.mem_cons, not_or]
        constructor
        · rintro ⟨schema, ofFirst, others, ⟨ofRest, nodup, fresh⟩, equal⟩
          cases equal
          refine ⟨⟨schema, others, ofFirst, ofRest, rfl⟩, ⟨?_, nodup⟩, isTaken,
            fun later member => (fresh later member).2⟩
          intro named
          rcases List.mem_map.mp named with ⟨later, member, equal⟩
          exact (fresh later member).1 equal
        · rintro ⟨⟨schema, others, ofFirst, ofRest, rfl⟩, ⟨different, nodup⟩, _, fresh⟩
          refine ⟨schema, ofFirst, others, ⟨ofRest, nodup, fun later member => ⟨?_, ?_⟩⟩, rfl⟩
          · intro equal
            exact different (equal ▸ List.mem_map_of_mem member)
          · exact fresh later member

theorem exists_entity_of_forall₂ {entities : List EntityMetadata} {schemas : List Schema}
    (each : List.Forall₂ (fun entity schema => ofEntity graph config entity = .ok schema) entities
      schemas) (member : schema ∈ schemas) :
    ∃ entity ∈ entities, ofEntity graph config entity = .ok schema := by
  have sameLength := each.length_eq
  rcases List.getElem_of_mem member with ⟨position, bound, rfl⟩
  exact ⟨_, List.getElem_mem _, each.get (by omega) bound⟩

/-- Every schema that was assembled is that of an entity. -/
theorem exists_entity_of_mem {taken : List String} {entities : List EntityMetadata}
    {schemas : List Schema} (assembled : ofEntities graph config taken entities = .ok schemas)
    (member : schema ∈ schemas) :
    ∃ entity ∈ entities, ofEntity graph config entity = .ok schema :=
  exists_entity_of_forall₂ (ofEntities_eq_ok_iff.mp assembled).1 member

end Schema

/-! ## Documents -/

variable {graph : Graph} {config : Config} {metadata : Metadata} {artifact : Artifact}

def sourceText (config : Config) (importsCustomType : Bool) (statements : List String) : String :=
  let imports := if importsCustomType then [importLine config] else []
  String.intercalate "\n\n" (imports ++ statements) ++ "\n"

theorem document_eq_ok_iff {schemas : List Schema} {source : String} :
    document config schemas = .ok source ↔
      ∃ statements, List.Forall₂ (fun schema statement => schema.statement config = .ok statement)
          schemas statements ∧
        sourceText config (needCustomType schemas) statements = source := by
  rw [document, bind_eq_ok_iff]
  simp only [mapM_eq_ok_iff]
  refine exists_congr fun statements => and_congr_right fun _ => ?_
  exact ⟨fun equal => Except.ok.inj equal, fun equal => congrArg Except.ok equal⟩

theorem compile_eq_ok_iff :
    compile graph metadata config = .ok artifact ↔
      (metadata.entities.map EntityMetadata.entity).Nodup ∧
      List.Forall₂ (fun entity schema => Schema.ofEntity graph config entity = .ok schema)
        metadata.entities artifact.schemas ∧
      artifact.usesCustomType = needCustomType artifact.schemas ∧
      ∃ statements, List.Forall₂ (fun schema statement => schema.statement config = .ok statement)
          artifact.schemas statements ∧
        artifact.source = sourceText config artifact.usesCustomType statements := by
  simp only [compile, bind_eq_ok_iff, assemble, Schema.ofEntities_eq_ok_iff, document_eq_ok_iff]
  constructor
  · rintro ⟨schemas, ⟨assembled, nodup, _⟩, source, ⟨statements, written, rfl⟩, equal⟩
    cases equal
    exact ⟨nodup, assembled, rfl, statements, written, rfl⟩
  · rintro ⟨nodup, assembled, uses, statements, written, source⟩
    refine ⟨artifact.schemas, ⟨assembled, nodup, by simp⟩, artifact.source,
      ⟨statements, written, ?_⟩, ?_⟩
    · rw [source, uses]
    · rw [← uses]
      rfl

theorem Schema.forall₂_of_compile (compiled : compile graph metadata config = .ok artifact) :
    List.Forall₂ (fun entity schema => ofEntity graph config entity = .ok schema)
      metadata.entities artifact.schemas :=
  (compile_eq_ok_iff.mp compiled).2.1

end EntitySchema
