import Mathlib
import EntitySchema.Proofs.Compilation.Bindings
/-!
How the compilation of a model fails, and where the failure is located.

Unless two entities have the same name, a model cannot be compiled because one of its entities
cannot. The error then says where: at the entity, or at a property or an index of it. There is one
gap. An entity that is annotated on a type which the graph does not have is looked up before
anything adds a location, so its error has none.
-/

namespace EntitySchema

variable {graph : Graph} {config : Config} {metadata : Metadata} {entity : EntityMetadata}
  {error : CompileError}

/-! ## Which entity fails -/

theorem Schema.ofEntities_eq_error {taken : List String} {entities : List EntityMetadata}
    (failed : ofEntities graph config taken entities = .error error) :
    (∃ name, error = .duplicateEntity name) ∨
      ∃ entity ∈ entities, ofEntity graph config entity = .error error := by
  induction entities generalizing taken with
  | nil => cases failed
  | cons entity rest induction =>
      rw [ofEntities] at failed
      split at failed
      · cases failed
        exact .inl ⟨entity.entity, rfl⟩
      · rcases bind_eq_error_iff.mp failed with ofFirst | ⟨schema, _, inRest⟩
        · exact .inr ⟨entity, List.mem_cons_self, ofFirst⟩
        · rw [bind_pure_comp, map_eq_error_iff] at inRest
          rcases induction inRest with duplicate | ⟨later, member, ofLater⟩
          · exact .inl duplicate
          · exact .inr ⟨later, List.mem_cons_of_mem _ member, ofLater⟩

/-- An entity fails alone if it has no schema, or a schema that cannot be declared. -/
theorem compile_only_eq_error_iff :
    compile graph (.only entity) config = .error error ↔
      Schema.ofEntity graph config entity = .error error ∨
        ∃ schema, Schema.ofEntity graph config entity = .ok schema ∧
          schema.statement config = .error error := by
  cases assembled : Schema.ofEntity graph config entity with
  | error cause =>
      simp [compile, assemble, Metadata.only, Schema.ofEntities, assembled]
  | ok schema =>
      cases written : schema.statement config <;>
        simp [compile, assemble, Metadata.only, Schema.ofEntities, assembled, document, written]

theorem exists_schema_of_document_error {schemas : List Schema}
    (failed : document config schemas = .error error) :
    ∃ schema ∈ schemas, schema.statement config = .error error := by
  rw [document, bind_eq_error_iff] at failed
  rcases failed with ofStatements | ⟨statements, _, impossible⟩
  · exact exists_error_of_mapM ofStatements
  · cases impossible

/-- Entities that cannot be compiled together share a name, or one of them cannot be compiled
alone. -/
theorem exists_entity_of_compile_error (failed : compile graph metadata config = .error error) :
    (∃ name, error = .duplicateEntity name) ∨
      ∃ entity ∈ metadata.entities, compile graph (.only entity) config = .error error := by
  rw [compile, bind_eq_error_iff] at failed
  rcases failed with inAssembly | ⟨schemas, assembled, inDocument⟩
  · rcases Schema.ofEntities_eq_error inAssembly with duplicate | ⟨entity, member, ofEntity⟩
    · exact .inl duplicate
    · exact .inr ⟨entity, member, compile_only_eq_error_iff.mpr (.inl ofEntity)⟩
  · rw [bind_pure_comp, map_eq_error_iff] at inDocument
    rcases exists_schema_of_document_error inDocument with ⟨schema, member, undeclared⟩
    rcases Schema.exists_entity_of_mem assembled member with ⟨entity, annotated, ofEntity⟩
    exact .inr ⟨entity, annotated,
      compile_only_eq_error_iff.mpr (.inr ⟨schema, ofEntity, undeclared⟩)⟩

/-! ## Where an entity fails -/

/-- The fault lies in the model, and not in a value that cannot be written. -/
def CompileFault.isOfModel : CompileFault → Bool
  | .unsupportedValue _ => false
  | _ => true

def CompileError.IsModelFaultAt (error : CompileError) (location : String) : Prop :=
  ∃ fault, error = .located location fault ∧ fault.isOfModel = true

theorem CompileError.IsModelFaultAt.location? {location : String}
    (isFault : error.IsModelFaultAt location) : error.location? = some location := by
  rcases isFault with ⟨fault, rfl, _⟩
  rfl

/-- A location is added to an error that has none, and may be added again. -/
theorem CompileError.IsModelFaultAt.inContext {location known : String}
    (isFault : error.IsModelFaultAt known) (same : known = "" ∨ known = location) :
    (error.inContext location).IsModelFaultAt location := by
  rcases isFault with ⟨fault, rfl, ofModel⟩
  refine ⟨fault, ?_, ofModel⟩
  rcases same with rfl | rfl <;> simp [CompileError.inContext]

/-- The entity has a name that can be bound, but is annotated on a type that the graph does not
have. -/
def EntityMetadata.IsDangling (graph : Graph) (entity : EntityMetadata) : Prop :=
  entityNameFault? entity.entity = none ∧ graph.get? entity.node = none

inductive IsLocationOf (graph : Graph) (entity : EntityMetadata) : String → Prop
  | dangling : entity.IsDangling graph → IsLocationOf graph entity ""
  | entity : ¬entity.IsDangling graph → IsLocationOf graph entity entity.entity
  | part (name : String) : ¬entity.IsDangling graph → entityNameFault? entity.entity = none →
      IsLocationOf graph entity (entity.entity ++ "." ++ name)

theorem entityRecord_eq_error (failed : Schema.entityRecord graph entity = .error error) :
    ∃ location, IsLocationOf graph entity location ∧ error.IsModelFaultAt location := by
  cases named : entityNameFault? entity.entity with
  | some fault =>
      have bound : ¬entity.IsDangling graph := by
        simp [EntityMetadata.IsDangling, named]
      simp only [Schema.entityRecord, named] at failed
      cases failed
      exact ⟨_, .entity bound, _, rfl, rfl⟩
  | none =>
      cases found : graph.get? entity.node with
      | none =>
          -- The error of the lookup is passed on as it is, and no caller locates it.
          simp only [Schema.entityRecord, named, Graph.get, found] at failed
          cases failed
          exact ⟨_, .dangling ⟨named, found⟩, _, rfl, rfl⟩
      | some node =>
          have bound : ¬entity.IsDangling graph := by
            simp [EntityMetadata.IsDangling, found]
          refine ⟨entity.entity, .entity bound, ?_⟩
          cases node with
          | record record =>
              simp only [Schema.entityRecord, named, Graph.get, found] at failed
              split_ifs at failed
              cases failed
              exact ⟨_, rfl, rfl⟩
          | _ =>
              simp only [Schema.entityRecord, named, Graph.get, found] at failed
              cases failed
              exact ⟨_, rfl, rfl⟩

theorem ofTimestamp_eq_error {path : String} {type : AttributeType} {marker : TimestampMarker}
    (failed : Attribute.ofTimestamp path type marker = .error error) :
    error.IsModelFaultAt path := by
  unfold Attribute.ofTimestamp at failed
  split_ifs at failed
  · cases kind : marker.kind <;> simp [kind] at failed
  · cases failed
    exact ⟨_, rfl, rfl⟩

theorem validator_eq_error {constraints : Constraints} {property : String}
    (failed : constraints.validator property = .error error) : error.IsModelFaultAt "" := by
  unfold Constraints.validator at failed
  split at failed <;> cases failed
  exact ⟨_, rfl, rfl⟩

theorem ofPlain_eq_error {type : AttributeType} {property : Property}
    (failed : Attribute.ofPlain graph type property = .error error) :
    error.IsModelFaultAt "" := by
  unfold Attribute.ofPlain at failed
  split at failed
  · cases failed
    exact ⟨_, rfl, rfl⟩
  · split at failed
    · next unreadable =>
        cases failed
        exact validator_eq_error unreadable
    · cases failed

/-- All that goes wrong with a property is located there. -/
theorem compose_eq_error {property : Property}
    (failed : Attribute.compose graph entity property = .error error) :
    error.IsModelFaultAt (entity.entity ++ "." ++ property.name) := by
  rcases mapError_eq_error_iff.mp failed with ⟨cause, composed, rfl⟩
  unfold Attribute.composeAt at composed
  cases mapped : graph.attributeType property.type with
  | error unmapped =>
      have isFault : (CompileError.ofMappingError unmapped).IsModelFaultAt "" := ⟨_, rfl, rfl⟩
      simp only [mapped] at composed
      cases composed
      exact isFault.inContext (.inl rfl)
  | ok type =>
      simp only [mapped] at composed
      have declared := map_eq_error_iff.mp composed
      split at declared
      · exact (ofTimestamp_eq_error declared).inContext (.inr rfl)
      · exact (ofPlain_eq_error declared).inContext (.inl rfl)

theorem checkedIndex_eq_error {record : RecordType} {index : IndexMetadata}
    (failed : Schema.checkedIndex entity record index = .error error) :
    error.IsModelFaultAt (entity.entity ++ "." ++ index.name) := by
  unfold Schema.checkedIndex at failed
  split at failed
  · cases failed
    exact ⟨_, rfl, rfl⟩
  · cases failed

theorem ofEntity_eq_error (failed : Schema.ofEntity graph config entity = .error error) :
    ∃ location, IsLocationOf graph entity location ∧ error.IsModelFaultAt location := by
  rcases bind_eq_error_iff.mp failed with noRecord | ⟨record, ofRecord, failed⟩
  · exact entityRecord_eq_error noRecord
  · rcases Schema.entityRecord_eq_ok_iff.mp ofRecord with ⟨named, found, _⟩
    have bound : ¬entity.IsDangling graph := by
      simp [EntityMetadata.IsDangling, found]
    rcases bind_eq_error_iff.mp failed with inAttributes | ⟨attributes, _, failed⟩
    · rcases exists_error_of_mapM inAttributes with ⟨property, _, ofProperty⟩
      rw [bind_pure_comp, map_eq_error_iff] at ofProperty
      exact ⟨_, .part property.name bound named, compose_eq_error ofProperty⟩
    · rw [bind_pure_comp, map_eq_error_iff] at failed
      rcases exists_error_of_mapM failed with ⟨index, _, ofIndex⟩
      exact ⟨_, .part index.name bound named, checkedIndex_eq_error ofIndex⟩

theorem location?_of_statement {schema : Schema}
    (failed : schema.statement config = .error error) :
    error.location? = some schema.name := by
  unfold Schema.statement at failed
  split at failed <;> cases failed
  rfl

theorem exists_location_of_compile_only
    (failed : compile graph (.only entity) config = .error error) :
    ∃ location, IsLocationOf graph entity location ∧ error.location? = some location := by
  rcases compile_only_eq_error_iff.mp failed with unassembled | ⟨schema, assembled, undeclared⟩
  · rcases ofEntity_eq_error unassembled with ⟨location, isLocation, isFault⟩
    exact ⟨location, isLocation, isFault.location?⟩
  · rcases Schema.ofEntity_eq_ok_iff.mp assembled with ⟨record, ofRecord, _⟩
    have bound : ¬entity.IsDangling graph := by
      simp [EntityMetadata.IsDangling, (Schema.entityRecord_eq_ok_iff.mp ofRecord).2.1]
    refine ⟨entity.entity, .entity bound, ?_⟩
    rw [location?_of_statement undeclared, (name_of_ofEntity assembled).1]

theorem IsLocationOf.eq_empty_iff {location : String}
    (isLocation : IsLocationOf graph entity location) :
    location = "" ↔ entity.entity = "" ∨ entity.IsDangling graph := by
  cases isLocation with
  | dangling dangling => simp [dangling]
  | entity bound => simp [bound]
  | part name bound named =>
      have nonempty : entity.entity ≠ "" := by
        intro empty
        rw [empty] at named
        cases named
      simp [bound, nonempty]

/-- An error with a location comes from an entity that cannot be compiled alone either. The location
is the name of that entity, or a path that starts with it, unless the type of the entity is missing.
It is empty only in that case, and for an entity whose name is. -/
theorem location_of_compile_error {location : String}
    (failed : compile graph metadata config = .error error)
    (located : error.location? = some location) :
    ∃ entity ∈ metadata.entities, compile graph (.only entity) config = .error error ∧
      (location = "" ↔ entity.entity = "" ∨ entity.IsDangling graph) ∧
      (¬entity.IsDangling graph →
        location = entity.entity ∨ ∃ part, location = entity.entity ++ "." ++ part) := by
  rcases exists_entity_of_compile_error failed with ⟨name, rfl⟩ | ⟨entity, member, ofEntity⟩
  · cases located
  · rcases exists_location_of_compile_only ofEntity with ⟨place, isLocation, placed⟩
    cases located.symm.trans placed
    refine ⟨entity, member, ofEntity, isLocation.eq_empty_iff, fun bound => ?_⟩
    cases isLocation with
    | dangling dangling => exact absurd dangling bound
    | entity _ => exact .inl rfl
    | part name _ _ => exact .inr ⟨name, rfl⟩

def danglingTask : EntityMetadata := { node := ⟨0⟩, entity := "Task" }

theorem location_danglingTask :
    ∃ error, compile {} (.only danglingTask) {} = .error error ∧
      error.message =
        "unsupported type '#0' at <model>: type #0 is not present in the model graph" ∧
      error.location? = some "" ∧ danglingTask.IsDangling {} := by
  obtain ⟨error, failed⟩ : ∃ error, compile {} (.only danglingTask) {} = .error error := ⟨_, rfl⟩
  have located : error.location? = some "" := by
    cases failed
    rfl
  have message : error.message =
      "unsupported type '#0' at <model>: type #0 is not present in the model graph" := by
    cases failed
    rfl
  rcases location_of_compile_error failed located with ⟨entity, member, _, unknown, _⟩
  rw [List.mem_singleton.mp member] at unknown
  exact ⟨error, failed, message, located, (unknown.mp rfl).resolve_left (by decide)⟩

end EntitySchema
