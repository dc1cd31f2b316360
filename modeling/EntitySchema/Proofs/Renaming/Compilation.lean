import Mathlib
import EntitySchema.Proofs.Compilation.Independence
import EntitySchema.Proofs.Renaming.Graph
import EntitySchema.Proofs.WalkDepth
/-!
What a model compiles to does not depend on the ids of its types.

Each part of the compiler uses ids to find nodes and to tell them apart. So if it succeeds on a
graph, it succeeds alike on every graph that this one is embedded in.
-/

namespace EntitySchema

variable {newId : TypeId → TypeId} {graph other : Graph}

/-! ## What does not depend on ids -/

theorem Constraints.ofChain_rename (facets : Facets) (chain : List ScalarType) :
    ofChain facets (chain.map (ScalarType.rename newId)) = ofChain facets chain := by
  rw [ofChain, List.foldl_map]
  rfl

theorem Schema.checkedIndex_rename (entity : EntityMetadata) (record : RecordType)
    (index : IndexMetadata) :
    checkedIndex (entity.rename newId) (record.rename newId) index =
      checkedIndex entity record index := by
  simp only [checkedIndex, RecordType.property?_rename, Option.isNone_map]
  rfl

namespace Graph.Embeds

/-! ## Types -/

theorem scalarKind (embeds : Embeds newId graph other) {id : TypeId} {kind : ScalarKind}
    (ofId : graph.scalarKind id = .ok kind) : other.scalarKind (newId id) = .ok kind := by
  rcases bind_eq_ok_iff.mp ofId with ⟨root, ofRoot, ofKind⟩
  rcases scalarRoot_eq_ok_iff.mp (fromGraph_eq_ok_iff.mp ofRoot) with ⟨chain, followed, last⟩
  have rootToo : other.scalarRoot (newId id) = .ok (root.rename newId) :=
    scalarRoot_eq_ok_iff.mpr ⟨_, embeds.scalarChain followed, by simp [last]⟩
  exact bind_eq_ok_iff.mpr ⟨_, fromGraph_eq_ok_iff.mpr rootToo, ofKind⟩

theorem openRecord (embeds : Embeds newId graph other) {opened next : List TypeId} {id : TypeId}
    {name : String} (isNode : graph.IsNode id) (areNodes : ∀ earlier ∈ opened, graph.IsNode earlier)
    (opens : EntitySchema.openRecord opened id name = .ok next) :
    EntitySchema.openRecord (opened.map newId) (newId id) name = .ok (next.map newId) ∧
      ∀ earlier ∈ next, graph.IsNode earlier := by
  unfold EntitySchema.openRecord at opens ⊢
  split_ifs at opens with contained full
  cases opens
  have absent := embeds.notMem_map isNode areNodes (by simpa using contained)
  refine ⟨?_, List.forall_mem_cons.mpr ⟨isNode, areNodes⟩⟩
  rw [if_neg (by simpa using absent), List.length_map, if_neg full, List.map_cons]

/-- What goes on from a node may go on from the renamed one. -/
theorem entails_get (embeds : Embeds newId graph other) {α : Type} {id : TypeId}
    {next nextOther : TypeNode → Except MappingError α}
    (each : ∀ node, graph.get? id = some node →
      Entails (next node) (nextOther (node.rename newId))) :
    Entails (fromGraph (graph.get id) >>= next)
      (fromGraph (other.get (newId id)) >>= nextOther) := by
  refine Entails.bind (TypeNode.rename newId) (fun node found => ?_) fun node found => ?_
  · rw [fromGraph_eq_ok_iff, get_eq_ok_iff] at found ⊢
    exact embeds.node id node found
  · rw [fromGraph_eq_ok_iff, get_eq_ok_iff] at found
    exact each node found

/-- What goes on inside a record may go on inside the renamed one. -/
theorem entails_record (embeds : Embeds newId graph other) {α : Type} {opened : List TypeId}
    {id : TypeId} {record : RecordType} {name : String}
    {next nextOther : List TypeId → List Property → Except MappingError α}
    (isNode : graph.IsNode id) (areNodes : ∀ earlier ∈ opened, graph.IsNode earlier)
    (each : ∀ below properties, (∀ earlier ∈ below, graph.IsNode earlier) →
      Entails (next below properties)
        (nextOther (below.map newId) (properties.map (Property.rename newId)))) :
    Entails
      (EntitySchema.openRecord opened id name >>= fun below =>
        fromGraph (graph.recordProperties record) >>= fun properties => next below properties)
      (EntitySchema.openRecord (opened.map newId) (newId id) name >>= fun below =>
        fromGraph (other.recordProperties (record.rename newId)) >>= fun properties =>
          nextOther below properties) := by
  refine Entails.bind (List.map newId) (fun below opens => ?_) fun below opens => ?_
  · exact (embeds.openRecord isNode areNodes opens).1
  · refine Entails.bind (List.map (Property.rename newId)) (fun properties ofRecord => ?_)
      fun properties _ => each below properties (embeds.openRecord isNode areNodes opens).2
    rw [fromGraph_eq_ok_iff] at ofRecord ⊢
    exact embeds.recordProperties ofRecord

/-- A type is written alike in both graphs. -/
theorem entails_expression (embeds : Embeds newId graph other) (depth : Nat)
    (opened : List TypeId) (id : TypeId) (areNodes : ∀ earlier ∈ opened, graph.IsNode earlier) :
    Entails (TypeExpression.walk graph depth opened id)
      (TypeExpression.walk other depth (opened.map newId) (newId id)) := by
  induction depth generalizing opened id with
  | zero => exact fun _ impossible => nomatch impossible
  | succ depth induction =>
      refine embeds.entails_get fun node found => ?_
      have ofElement (element : TypeId) :=
        (induction opened element areNodes).bind_pure TypeExpression.ofArray
      have ofParts (parts : List TypeId) :=
        Entails.mapM newId parts fun part _ => induction opened part areNodes
      cases node with
      | scalar scalar => exact Entails.bind_pure (fun _ => embeds.scalarKind) _
      | array element => exact ofElement element
      | record record =>
          simp only [TypeNode.rename, RecordType.arrayElement?_rename]
          cases shape : record.arrayElement? with
          | some element => exact ofElement element
          | none =>
              refine embeds.entails_record ⟨_, found⟩ areNodes fun below properties areNodes => ?_
              refine Entails.bind_pure (Entails.mapM _ properties fun property _ => ?_) _
              exact (induction below property.type areNodes).bind_pure _
      | union union =>
          simp only [TypeNode.rename, UnionType.rename, List.isEmpty_map]
          split_ifs
          · exact .refl _
          · exact (ofParts union.variants).bind_pure _
      | tuple items => exact (ofParts items).bind_pure _
      | _ => exact .refl _

theorem entails_ofElement (embeds : Embeds newId graph other)
    {walk walkOther : TypeId → Except MappingError AttributeType} (element : TypeId)
    (ofElement : Entails (walk element) (walkOther (newId element))) :
    Entails (AttributeType.ofElement graph walk element)
      (AttributeType.ofElement other walkOther (newId element)) := by
  refine embeds.entails_get fun node _ => ?_
  cases node with
  | enum enum => exact .refl _
  | _ => exact ofElement.bind_pure _

/-- A walk finds the same attribute type in both graphs. -/
theorem entails_walk (embeds : Embeds newId graph other) (depth : Nat) (opened : List TypeId)
    (id : TypeId) (areNodes : ∀ earlier ∈ opened, graph.IsNode earlier) :
    Entails (AttributeType.walk graph depth opened id)
      (AttributeType.walk other depth (opened.map newId) (newId id)) := by
  induction depth generalizing opened id with
  | zero => exact fun _ impossible => nomatch impossible
  | succ depth induction =>
      refine embeds.entails_get fun node found => ?_
      have ofElement (element : TypeId) :=
        embeds.entails_ofElement element (induction opened element areNodes)
      cases node with
      | scalar scalar => exact Entails.bind_pure (fun _ => embeds.scalarKind) _
      | array element => exact ofElement element
      | record record =>
          simp only [TypeNode.rename, RecordType.arrayElement?_rename]
          cases shape : record.arrayElement? with
          | some element => exact ofElement element
          | none =>
              refine embeds.entails_record ⟨_, found⟩ areNodes fun below properties areNodes => ?_
              refine Entails.bind_pure (Entails.mapM _ properties fun property _ => ?_) _
              exact (induction below property.type areNodes).bind_pure _
      | union union =>
          refine Entails.bind (fun values => values) (fun values ofUnion => ?_) fun values _ => ?_
          · rw [fromGraph_eq_ok_iff] at ofUnion ⊢
            exact embeds.unionLiterals ofUnion
          · cases values with
            | some values => exact .refl _
            | none => exact (embeds.entails_expression depth opened id areNodes).bind_pure _
      | _ => exact .refl _

theorem attributeType (embeds : Embeds newId graph other) {id : TypeId} {type : AttributeType}
    (ofId : graph.attributeType id = .ok type) : other.attributeType (newId id) = .ok type :=
  -- The graphs allow different depths, and any depth at which the walk succeeds will do.
  attributeType_of_walk (embeds.entails_walk graph.walkDepth [] id (by simp) type ofId)

/-! ## Attributes -/

theorem resolve (embeds : Embeds newId graph other) {property : Property}
    {constraints : Constraints} (resolved : Constraints.resolve graph property = .ok constraints) :
    Constraints.resolve other (property.rename newId) = .ok constraints := by
  cases found : graph.get? property.type with
  | none => simp [Constraints.resolve, Graph.get, found] at resolved
  | some node =>
      simp only [Constraints.resolve, get_eq_ok_iff.mpr found] at resolved
      simp only [Constraints.resolve, Property.rename, embeds.get found]
      cases node with
      | scalar scalar =>
          cases followed : graph.scalarChain property.type with
          | error error => simp [followed, Except.map] at resolved
          | ok chain =>
              simp only [TypeNode.rename, embeds.scalarChain followed, Except.map,
                Constraints.ofChain_rename]
              simpa only [followed, Except.map] using resolved
      | union union =>
          cases followed : graph.unionLiterals union with
          | error error => simp [followed, Except.map] at resolved
          | ok values =>
              simp only [TypeNode.rename, embeds.unionLiterals followed]
              simpa only [followed] using resolved
      | _ => exact resolved

/-- Members of enums are found in the graph, so they have the same values in both. -/
theorem defaultValue? (embeds : Embeds newId graph other) {value : DefaultValue}
    (isNode : ∀ enumType member, value = .enumMember enumType member → graph.IsNode enumType) :
    Attribute.defaultValue? other (value.rename newId) = Attribute.defaultValue? graph value := by
  cases value with
  | enumMember enumType member =>
      rcases isNode enumType member rfl with ⟨node, found⟩
      have foundToo := embeds.node enumType node found
      simp only [DefaultValue.rename, Attribute.defaultValue?, Attribute.memberValue, found,
        foundToo]
      cases node <;> rfl
  | _ => rfl

theorem ofPlain (embeds : Embeds newId graph other) {property : Property} {type : AttributeType}
    {attr : Attribute}
    (isNode : ∀ enumType member, property.default = some (.enumMember enumType member) →
      graph.IsNode enumType)
    (composed : Attribute.ofPlain graph type property = .ok attr) :
    Attribute.ofPlain other type (property.rename newId) = .ok attr := by
  have sameDefault : (property.rename newId).default.bind (Attribute.defaultValue? other) =
      property.default.bind (Attribute.defaultValue? graph) := by
    cases default : property.default with
    | none => simp [Property.rename, default]
    | some value =>
        simp only [Property.rename, default, Option.map_some, Option.bind_some]
        exact embeds.defaultValue? fun enumType member equal =>
          isNode enumType member (default.trans (congrArg some equal))
  cases resolved : Constraints.resolve graph property with
  | error error => simp [Attribute.ofPlain, resolved] at composed
  | ok constraints =>
      simp only [Attribute.ofPlain, resolved] at composed
      simp only [Attribute.ofPlain, embeds.resolve resolved, sameDefault]
      exact composed

theorem compose (embeds : Embeds newId graph other) {entity : EntityMetadata}
    {property : Property} {attr : Attribute}
    (isNode : ∀ enumType member, property.default = some (.enumMember enumType member) →
      graph.IsNode enumType)
    (composed : Attribute.compose graph entity property = .ok attr) :
    Attribute.compose other (entity.rename newId) (property.rename newId) = .ok attr := by
  rw [Attribute.compose, mapError_eq_ok_iff] at composed ⊢
  cases ofType : graph.attributeType property.type with
  | error error => simp [Attribute.composeAt, ofType] at composed
  | ok type =>
      have ofTypeToo : other.attributeType (property.rename newId).type = .ok type :=
        embeds.attributeType ofType
      have sameMetadata : (entity.rename newId).property? (property.rename newId).name =
          entity.property? property.name := rfl
      simp only [Attribute.composeAt, ofType] at composed
      simp only [Attribute.composeAt, ofTypeToo, sameMetadata]
      cases marker : (entity.property? property.name).bind PropertyMetadata.timestamp with
      | some marker =>
          simp only [marker] at composed
          exact composed
      | none =>
          simp only [marker] at composed
          cases plain : Attribute.ofPlain graph type property with
          | error error => simp [plain, Except.map] at composed
          | ok attr =>
              simp only [embeds.ofPlain isNode plain]
              simpa only [plain] using composed

end Graph.Embeds

/-! ## Schemas -/

def Graph.HasEnumsOfDefaults (graph : Graph) : Prop :=
  ∀ id record, graph.get? id = some (.record record) → ∀ property ∈ record.properties,
    ∀ enumType member, property.default = some (.enumMember enumType member) →
      graph.IsNode enumType

namespace Graph.Embeds

theorem ofEntity (embeds : Embeds newId graph other) (defaults : graph.HasEnumsOfDefaults)
    {config : Config} {entity : EntityMetadata} {schema : Schema}
    (assembled : Schema.ofEntity graph config entity = .ok schema) :
    Schema.ofEntity other config (entity.rename newId) = .ok schema := by
  rcases Schema.ofEntity_eq_ok_iff.mp assembled with
    ⟨record, ofRecord, ofProperties, ofIndexes, identity⟩
  rcases Schema.entityRecord_eq_ok_iff.mp ofRecord with ⟨named, found, shape⟩
  have ofRecordToo : Schema.entityRecord other (entity.rename newId) = .ok (record.rename newId) :=
    Schema.entityRecord_eq_ok_iff.mpr ⟨named, embeds.node _ _ found, by simp [shape]⟩
  refine Schema.ofEntity_eq_ok_iff.mpr ⟨_, ofRecordToo, ?_, ?_, identity⟩
  · refine Entails.mapM (Property.rename newId) record.properties ?_ _ ofProperties
    intro property member
    exact Entails.bind_pure (fun _ => embeds.compose (defaults _ _ found property member)) _
  · rw [← ofIndexes]
    exact congrArg (entity.indexes.mapM ·)
      (funext fun index => Schema.checkedIndex_rename _ _ index)

end Graph.Embeds

/-- A model compiles to the same artifact if its graph is embedded in another one, and its entities
are annotated on the nodes there. -/
theorem compile_rename_eq_ok (embeds : graph.Embeds newId other)
    (defaults : graph.HasEnumsOfDefaults) {metadata : Metadata} {config : Config}
    {artifact : Artifact} (compiled : compile graph metadata config = .ok artifact) :
    compile other (metadata.rename newId) config = .ok artifact := by
  rcases compile_eq_ok_iff.mp compiled with ⟨nodup, assembled, written⟩
  refine compile_eq_ok_iff.mpr ⟨?_, ?_, written⟩
  · rw [Metadata.rename, List.map_map]
    exact nodup
  · rw [Metadata.rename, List.forall₂_map_left_iff]
    exact assembled.imp fun _ _ => embeds.ofEntity defaults

/-- A task and a record that it derives from. Its state is a member of an enum by default, and its
subject is a string or another type that is only known as an expression. -/
def taskGraph : Graph :=
  { types := #[.scalar { name := "string" },
      .enum { name := "State", members := [{ name := "open" }] },
      .union { variants := [⟨0⟩, ⟨3⟩] }, .array ⟨4⟩,
      .record { name := "Note", properties := [{ name := "text", type := ⟨0⟩ }] },
      .record { name := "Task", base := some ⟨4⟩, properties := [
        { name := "state", type := ⟨1⟩, default := some (.enumMember ⟨1⟩ "open") },
        { name := "subject", type := ⟨2⟩ }] }] }

def reversedTaskGraph : Graph :=
  { types := #[.never,
      .record { name := "Task", base := some ⟨2⟩, properties := [
        { name := "state", type := ⟨5⟩, default := some (.enumMember ⟨5⟩ "open") },
        { name := "subject", type := ⟨4⟩ }] },
      .record { name := "Note", properties := [{ name := "text", type := ⟨6⟩ }] },
      .array ⟨2⟩, .union { variants := [⟨6⟩, ⟨3⟩] },
      .enum { name := "State", members := [{ name := "open" }] }, .scalar { name := "string" }] }

def reversedId (id : TypeId) : TypeId := ⟨6 - id.index⟩

theorem compile_reversedTaskGraph :
    ∃ artifact, compile taskGraph { entities := [{ node := ⟨5⟩, entity := "Task" }] } {} =
        .ok artifact ∧
      compile reversedTaskGraph { entities := [{ node := ⟨1⟩, entity := "Task" }] } {} =
        .ok artifact := by
  have injective : Function.Injective reversedId := by
    rintro ⟨left⟩ ⟨right⟩ same
    have equal : 6 - left = 6 - right := congrArg TypeId.index same
    simpa using equal
  have embeds : taskGraph.Embeds reversedId reversedTaskGraph := by
    apply Graph.embeds_of_forall_lt injective
    intro index small
    have bound : index < 6 := small
    interval_cases index <;> rfl
  have defaults : taskGraph.HasEnumsOfDefaults := by
    intro id record found property member enumType name isDefault
    have listed : TypeNode.record record ∈ taskGraph.types := Array.mem_of_getElem? found
    simp only [taskGraph, List.mem_toArray, List.mem_cons, TypeNode.record.injEq, reduceCtorEq,
      List.not_mem_nil, false_or, or_false] at listed
    rcases listed with rfl | rfl <;> simp only [List.mem_cons, List.not_mem_nil, or_false] at member
    · subst member
      cases isDefault
    · rcases member with rfl | rfl <;> cases isDefault
      exact ⟨_, rfl⟩
  obtain ⟨artifact, compiled⟩ : ∃ artifact,
      compile taskGraph { entities := [{ node := ⟨5⟩, entity := "Task" }] } {} = .ok artifact :=
    ⟨_, rfl⟩
  exact ⟨artifact, compiled, compile_rename_eq_ok embeds defaults compiled⟩

end EntitySchema
