import Mathlib
import EntitySchema.Proofs.AttributeType
/-!
What one step of the walk writes for each kind of type, from what is written for the types below.
-/

namespace EntitySchema

namespace TypeExpression

variable {graph : Graph} {depth : Nat} {opened : List TypeId} {id element : TypeId}
  {written : List Char}

theorem walk_of_element? (hasElement : graph.element? id = some element) :
    walk graph (depth + 1) opened id = ofArray <$> walk graph depth opened element := by
  cases found : graph.get? id with
  | none => simp [Graph.element?, found] at hasElement
  | some node =>
      cases node with
      | array other =>
          have same : other = element := by
            simpa [Graph.element?, found] using hasElement
          simp [walk, Graph.fromGraph_get_of_get? found, same]
      | record record =>
          have shape : record.arrayElement? = some element := by
            simpa [Graph.element?, found] using hasElement
          simp [walk, Graph.fromGraph_get_of_get? found, shape]
      | _ => simp [Graph.element?, found] at hasElement

theorem walk_scalar_eq_ok_iff {scalar : ScalarType}
    (found : graph.get? id = some (.scalar scalar)) :
    walk graph (depth + 1) opened id = .ok written ↔
      ∃ kind, graph.scalarKind id = .ok kind ∧ kind.name.toList = written := by
  simp [walk, Graph.fromGraph_get_of_get? found]

theorem walk_plainRecord_eq_ok_iff {record : RecordType}
    (found : graph.get? id = some (.record record)) (shape : record.arrayElement? = none) :
    walk graph (depth + 1) opened id = .ok written ↔
      ∃ (below : List TypeId) (properties : List Property) (text : Property → List Char),
        openRecord opened id record.name = .ok below ∧
        graph.recordProperties record = .ok properties ∧
        (∀ property ∈ properties,
          walk graph depth below property.type = .ok (text property)) ∧
        ofMembers (properties.map fun property => ofMember property (text property)) = written := by
  simp only [walk, Graph.fromGraph_get_of_get? found, ok_bind, shape, bind_eq_ok_iff,
    fromGraph_eq_ok_iff]
  constructor
  · rintro ⟨below, opens, properties, ofRecord, members, walked, equal⟩
    cases equal
    rcases mapM_transform_eq_ok_iff.mp walked with ⟨text, rfl, walks⟩
    exact ⟨below, properties, text, opens, ofRecord, walks, rfl⟩
  · rintro ⟨below, properties, text, opens, ofRecord, walks, rfl⟩
    exact ⟨below, opens, properties, ofRecord, _, mapM_transform_eq_ok_iff.mpr ⟨text, rfl, walks⟩,
      rfl⟩

theorem walk_enum_eq_ok_iff {enum : EnumType} (found : graph.get? id = some (.enum enum)) :
    walk graph (depth + 1) opened id = .ok written ↔
      enum.members ≠ [] ∧ ofVariants (enum.values.map ofLiteral) = written := by
  simp [walk, Graph.fromGraph_get_of_get? found, Graph.someValues_eq_ok_iff]

theorem walk_union_eq_ok_iff {union : UnionType} (found : graph.get? id = some (.union union)) :
    walk graph (depth + 1) opened id = .ok written ↔
      union.variants ≠ [] ∧ ∃ text : TypeId → List Char,
        (∀ variant ∈ union.variants, walk graph depth opened variant = .ok (text variant)) ∧
        ofVariants (union.variants.map text) = written := by
  simp only [walk, Graph.fromGraph_get_of_get? found, ok_bind, List.isEmpty_iff]
  by_cases empty : union.variants = []
  · simp [empty]
  · simp only [empty, if_false, bind_eq_ok_iff, mapM_eq_ok_iff_exists_map, ne_eq, not_false_eq_true,
      true_and]
    constructor
    · rintro ⟨_, ⟨text, rfl, walks⟩, equal⟩
      exact ⟨text, walks, Except.ok.inj equal⟩
    · rintro ⟨text, walks, rfl⟩
      exact ⟨_, ⟨text, rfl, walks⟩, rfl⟩

theorem walk_tuple_eq_ok_iff {items : List TypeId} (found : graph.get? id = some (.tuple items)) :
    walk graph (depth + 1) opened id = .ok written ↔
      ∃ text : TypeId → List Char,
        (∀ item ∈ items, walk graph depth opened item = .ok (text item)) ∧
        ofTuple (items.map text) = written := by
  simp only [walk, Graph.fromGraph_get_of_get? found, ok_bind, bind_eq_ok_iff,
    mapM_eq_ok_iff_exists_map]
  constructor
  · rintro ⟨_, ⟨text, rfl, walks⟩, equal⟩
    exact ⟨text, walks, Except.ok.inj equal⟩
  · rintro ⟨text, walks, rfl⟩
    exact ⟨_, ⟨text, rfl, walks⟩, rfl⟩

end TypeExpression

end EntitySchema
