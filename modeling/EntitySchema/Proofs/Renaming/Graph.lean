import Mathlib
import EntitySchema.Model.Metadata
import EntitySchema.Proofs.Derivation
/-!
Graphs under other ids.

A graph is embedded in another one if each of its nodes stands there under a new id, with the new
ids inside. What is found by following ids then is found there as well: the chain of a scalar, the
properties of a record and the literals of a union.
-/

namespace EntitySchema

/-! ## Renaming -/

namespace DefaultValue

mutual

def rename (newId : TypeId → TypeId) : DefaultValue → DefaultValue
  | .string value => .string value
  | .number value => .number value
  | .boolean value => .boolean value
  | .enumMember enumType member => .enumMember (newId enumType) member
  | .null => .null
  | .array items => .array (renameItems newId items)
  | .object fields => .object (renameFields newId fields)

def renameItems (newId : TypeId → TypeId) : List DefaultValue → List DefaultValue
  | [] => []
  | item :: rest => rename newId item :: renameItems newId rest

def renameFields (newId : TypeId → TypeId) :
    List (String × DefaultValue) → List (String × DefaultValue)
  | [] => []
  | (name, value) :: rest => (name, rename newId value) :: renameFields newId rest

end

end DefaultValue

def Property.rename (newId : TypeId → TypeId) (property : Property) : Property :=
  { property with
    type := newId property.type
    default := property.default.map (DefaultValue.rename newId) }

def ScalarType.rename (newId : TypeId → TypeId) (scalar : ScalarType) : ScalarType :=
  { scalar with base := scalar.base.map newId }

def RecordType.rename (newId : TypeId → TypeId) (record : RecordType) : RecordType :=
  { record with
    properties := record.properties.map (Property.rename newId)
    base := record.base.map newId
    indexer := record.indexer.map newId }

def UnionType.rename (newId : TypeId → TypeId) (union : UnionType) : UnionType :=
  { union with variants := union.variants.map newId }

def TypeNode.rename (newId : TypeId → TypeId) : TypeNode → TypeNode
  | .scalar node => .scalar (node.rename newId)
  | .record node => .record (node.rename newId)
  | .array element => .array (newId element)
  | .enum node => .enum node
  | .union node => .union (node.rename newId)
  | .stringLiteral value => .stringLiteral value
  | .numericLiteral value => .numericLiteral value
  | .booleanLiteral value => .booleanLiteral value
  | .tuple items => .tuple (items.map newId)
  | .unknown => .unknown
  | .void => .void
  | .never => .never
  | .null => .null

def EntityMetadata.rename (newId : TypeId → TypeId) (entity : EntityMetadata) : EntityMetadata :=
  { entity with node := newId entity.node }

def Metadata.rename (newId : TypeId → TypeId) (metadata : Metadata) : Metadata :=
  { entities := metadata.entities.map (EntityMetadata.rename newId) }

/-! ## New ids that are the old ones -/

namespace DefaultValue

mutual

theorem rename_id (value : DefaultValue) : value.rename id = value := by
  cases value with
  | array items => rw [rename, renameItems_id items]
  | object fields => rw [rename, renameFields_id fields]
  | _ => simp [rename]

theorem renameItems_id (items : List DefaultValue) : renameItems id items = items := by
  cases items with
  | nil => rfl
  | cons item rest => rw [renameItems, rename_id item, renameItems_id rest]

theorem renameFields_id (fields : List (String × DefaultValue)) :
    renameFields id fields = fields := by
  cases fields with
  | nil => rfl
  | cons entry rest => rw [renameFields, rename_id entry.2, renameFields_id rest]

end

end DefaultValue

theorem Property.rename_id (property : Property) : property.rename id = property := by
  have same : DefaultValue.rename id = id := funext DefaultValue.rename_id
  simp [rename, same]

theorem TypeNode.rename_id (node : TypeNode) : node.rename id = node := by
  have same : Property.rename id = id := funext Property.rename_id
  cases node <;> simp [rename, ScalarType.rename, RecordType.rename, UnionType.rename, same]

/-! ## What does not depend on ids -/

variable {newId : TypeId → TypeId}

@[simp] theorem TypeNode.literal?_rename (node : TypeNode) :
    (node.rename newId).literal? = node.literal? := by
  cases node <;> rfl

@[simp] theorem RecordType.arrayElement?_rename (record : RecordType) :
    (record.rename newId).arrayElement? = record.arrayElement?.map newId := by
  simp only [arrayElement?, rename, List.isEmpty_map]
  split <;> rfl

theorem RecordType.property?_rename (record : RecordType) (name : String) :
    (record.rename newId).property? name =
      (record.property? name).map (Property.rename newId) := by
  simp only [property?, rename, List.find?_map]
  rfl

theorem Graph.addProperties_rename (known added : List Property) :
    addProperties (known.map (Property.rename newId)) (added.map (Property.rename newId)) =
      (addProperties known added).map (Property.rename newId) := by
  induction added generalizing known with
  | nil => rfl
  | cons property rest induction =>
      have sameNames : (known.map (Property.rename newId)).any
          (fun earlier => earlier.name == (property.rename newId).name) =
            known.any fun earlier => earlier.name == property.name := by
        rw [List.any_map]
        rfl
      simp only [addProperties, List.map_cons, List.foldl_cons, sameNames] at induction ⊢
      split_ifs
      · exact induction known
      · simpa using induction (known ++ [property])

/-! ## Embeddings -/

namespace Graph

def IsNode (graph : Graph) (id : TypeId) : Prop := ∃ node, graph.get? id = some node

/-- Each node of the graph stands in the other one under its new id, and different nodes have
different new ids. -/
structure Embeds (newId : TypeId → TypeId) (graph other : Graph) : Prop where
  injOn : Set.InjOn newId {id | graph.IsNode id}
  node : ∀ id node, graph.get? id = some node → other.get? (newId id) = some (node.rename newId)

/-- It is enough to look at the nodes one after another. -/
theorem embeds_of_forall_lt {graph other : Graph} (injective : Function.Injective newId)
    (nodes : ∀ index < graph.size, other.get? (newId (idOfIndex index)) =
      (graph.get? (idOfIndex index)).map (TypeNode.rename newId)) :
    Embeds newId graph other := by
  refine ⟨injective.injOn, fun id node found => ?_⟩
  have inRange : id.index.toNat < graph.size := (Array.getElem?_eq_some_iff.mp found).1
  have sameId : idOfIndex id.index.toNat = id := by
    simp [idOfIndex]
  have atId := nodes _ inRange
  rwa [sameId, found, Option.map_some] at atId

namespace Embeds

variable {graph other : Graph}

theorem get (embeds : Embeds newId graph other) {id : TypeId} {node : TypeNode}
    (found : graph.get? id = some node) : other.get (newId id) = .ok (node.rename newId) := by
  simp [Graph.get, embeds.node id node found]

/-- No id becomes one of the new ids that was not among the old ones. -/
theorem notMem_map (embeds : Embeds newId graph other) {id : TypeId} {ids : List TypeId}
    (isNode : graph.IsNode id) (areNodes : ∀ earlier ∈ ids, graph.IsNode earlier)
    (absent : id ∉ ids) : newId id ∉ ids.map newId := by
  intro member
  rcases List.mem_map.mp member with ⟨earlier, listed, same⟩
  exact absent (embeds.injOn (areNodes earlier listed) isNode same ▸ listed)

/-! ## Following ids -/

theorem scalarChainFrom (embeds : Embeds newId graph other) {remaining : Nat}
    {passed : List (TypeId × ScalarType)} {id : TypeId} {chain : List ScalarType}
    (areNodes : ∀ earlier ∈ passed.map Prod.fst, graph.IsNode earlier)
    (followed : graph.scalarChainFrom remaining passed id = .ok chain) :
    other.scalarChainFrom remaining
        (passed.map fun entry => (newId entry.1, entry.2.rename newId)) (newId id) =
      .ok (chain.map (ScalarType.rename newId)) := by
  -- New ids tell scalars apart only if they are ids of nodes, which all that were passed are.
  induction remaining using Nat.strongRecOn generalizing passed id with
  | ind remaining induction =>
      rcases scalarChainFrom_eq_ok_iff.mp followed with ⟨node, left, found, notPassed, rfl, rest⟩
      have notPassedToo := embeds.notMem_map ⟨_, found⟩ areNodes notPassed
      rw [List.map_map] at notPassedToo
      refine scalarChainFrom_eq_ok_iff.mpr ⟨node.rename newId, left, embeds.node _ _ found,
        by rwa [List.map_map], rfl, ?_⟩
      cases base : node.base with
      | none =>
          simp only [base] at rest
          simp [ScalarType.rename, base, ← rest]
      | some next =>
          simp only [base] at rest
          have areNodesToo : ∀ earlier ∈ (passed ++ [(id, node)]).map Prod.fst,
              graph.IsNode earlier := by
            simp only [List.map_append, List.forall_mem_append]
            exact ⟨areNodes, by simpa using ⟨_, found⟩⟩
          simpa [ScalarType.rename, base] using induction left (by omega) areNodesToo rest

theorem scalarChain (embeds : Embeds newId graph other) {id : TypeId} {chain : List ScalarType}
    (followed : graph.scalarChain id = .ok chain) :
    other.scalarChain (newId id) = .ok (chain.map (ScalarType.rename newId)) :=
  embeds.scalarChainFrom (by simp) followed

theorem recordPropertiesFrom (embeds : Embeds newId graph other) {start current : RecordType}
    {remaining : Nat} {passed : List TypeId} {collected properties : List Property}
    (areNodes : ∀ earlier ∈ passed, graph.IsNode earlier)
    (followed : graph.recordPropertiesFrom start remaining passed collected current =
      .ok properties) :
    other.recordPropertiesFrom (start.rename newId) remaining (passed.map newId)
        (collected.map (Property.rename newId)) (current.rename newId) =
      .ok (properties.map (Property.rename newId)) := by
  induction remaining using Nat.strongRecOn generalizing passed collected current with
  | ind remaining induction =>
      rw [recordPropertiesFrom_eq_ok_iff] at followed ⊢
      cases base : current.base with
      | none =>
          simp only [base] at followed
          simp [RecordType.rename, base, addProperties_rename, followed]
      | some baseId =>
          simp only [base] at followed
          rcases followed with ⟨next, left, found, notPassed, rfl, rest⟩
          have notPassedToo := embeds.notMem_map ⟨_, found⟩ areNodes notPassed
          have areNodesToo : ∀ earlier ∈ passed ++ [baseId], graph.IsNode earlier :=
            List.forall_mem_append.mpr ⟨areNodes, by simpa using ⟨_, found⟩⟩
          have restToo := induction left (by omega) areNodesToo rest
          rw [← addProperties_rename, List.map_append] at restToo
          simp only [RecordType.rename, base, Option.map_some]
          exact ⟨_, left, embeds.node _ _ found, notPassedToo, rfl, restToo⟩

theorem recordProperties (embeds : Embeds newId graph other) {record : RecordType}
    {properties : List Property} (followed : graph.recordProperties record = .ok properties) :
    other.recordProperties (record.rename newId) =
      .ok (properties.map (Property.rename newId)) :=
  embeds.recordPropertiesFrom (by simp) followed

theorem literalValues (embeds : Embeds newId graph other) {variants : List TypeId}
    {values : Option (List Literal)} (followed : graph.literalValues variants = .ok values) :
    other.literalValues (variants.map newId) = .ok values := by
  induction variants generalizing values with
  | nil => exact followed
  | cons id rest induction =>
      cases found : graph.get? id with
      | none => simp [Graph.literalValues, Graph.get, found] at followed
      | some node =>
          simp only [Graph.literalValues, Graph.get, found] at followed
          simp only [List.map_cons, Graph.literalValues, embeds.get found,
            TypeNode.literal?_rename]
          cases literal : node.literal? with
          | none => simpa only [literal] using followed
          | some value =>
              simp only [literal] at followed
              cases ofRest : graph.literalValues rest with
              | error error => simp [ofRest] at followed
              | ok others => simpa only [induction ofRest, ofRest] using followed

theorem unionLiterals (embeds : Embeds newId graph other) {union : UnionType}
    {values : Option (List Literal)} (followed : graph.unionLiterals union = .ok values) :
    other.unionLiterals (union.rename newId) = .ok values := by
  simp only [Graph.unionLiterals, UnionType.rename, List.isEmpty_map] at followed ⊢
  split_ifs at followed ⊢
  · exact followed
  · exact embeds.literalValues followed

end Embeds

end Graph

end EntitySchema
