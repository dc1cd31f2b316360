import Mathlib
import EntitySchema.Proofs.Value.Layout
/-!
Values that differ in their numbers only. They have the same parts in the same places, and so they
are laid out alike.
-/

namespace EntitySchema

namespace Value

mutual

def mapNumbers (change : Number → Number) : Value → Value
  | .number content => .number (change content)
  | .list items => .list (mapItemNumbers change items)
  | .record fields => .record (mapFieldNumbers change fields)
  | leaf => leaf

def mapItemNumbers (change : Number → Number) : List Value → List Value
  | [] => []
  | item :: rest => mapNumbers change item :: mapItemNumbers change rest

def mapFieldNumbers (change : Number → Number) : List (String × Value) → List (String × Value)
  | [] => []
  | (key, value) :: rest => (key, mapNumbers change value) :: mapFieldNumbers change rest

end

variable (change : Number → Number)

@[simp] theorem mapNumbers_number (content : Number) :
    (number content).mapNumbers change = .number (change content) := rfl

@[simp] theorem mapNumbers_list (items : List Value) :
    (list items).mapNumbers change = .list (items.map (mapNumbers change)) := by
  rw [mapNumbers]
  congr 1
  induction items with
  | nil => rfl
  | cons item rest induction => rw [mapItemNumbers, induction, List.map_cons]

@[simp] theorem mapNumbers_record (fields : List (String × Value)) :
    (record fields).mapNumbers change =
      .record (fields.map fun field => (field.1, field.2.mapNumbers change)) := by
  rw [mapNumbers]
  congr 1
  induction fields with
  | nil => rfl
  | cons field rest induction => rw [mapFieldNumbers, induction, List.map_cons]

theorem isComposite_mapNumbers (value : Value) :
    (value.mapNumbers change).isComposite = value.isComposite := by
  cases value <;> rfl

theorem nodes_mapNumbers (value : Value) :
    (value.mapNumbers change).nodes = value.nodes.map (mapNumbers change) := by
  induction value using Value.induction with
  | list items induction =>
      simp only [mapNumbers_list, nodes_list, List.map_cons, List.map_flatMap, List.flatMap_map]
      rw [List.flatMap_congr induction]
  | record fields induction =>
      simp only [mapNumbers_record, nodes_record, List.map_cons, List.map_flatMap,
        List.flatMap_map]
      rw [List.flatMap_congr induction]
  | leaf value leaf =>
      rw [nodes_leaf leaf, nodes_leaf (by rw [isComposite_mapNumbers, leaf])]
      rfl

variable {change} in
theorem HasFiniteNumbers.mapNumbers {value : Value}
    (finite : ∀ content, .number content ∈ value.nodes → (change content).isFinite = true) :
    (value.mapNumbers change).HasFiniteNumbers := by
  intro content member
  rw [nodes_mapNumbers, List.mem_map] at member
  rcases member with ⟨node, inValue, changed⟩
  cases node with
  | number original =>
      cases changed
      exact finite original inValue
  | list items => simp at changed
  | record fields => simp at changed
  | _ => cases changed

variable {change} in
theorem IsSourceFree.mapNumbers {value : Value} (sourceFree : value.IsSourceFree) :
    (value.mapNumbers change).IsSourceFree := by
  intro code member
  rw [nodes_mapNumbers, List.mem_map] at member
  rcases member with ⟨node, inValue, changed⟩
  cases node with
  | source original =>
      cases changed
      exact sourceFree code inValue
  | list items => simp at changed
  | record fields => simp at changed
  | _ => cases changed

/-! ## Text -/

theorem chars_mapNumbers_list (style : Style) (items : List Value) :
    style.chars ((list items).mapNumbers change) =
      '[' :: ((style.ofItems items).2.fill
        (items.map fun item => (style.ofItems items).1.chars (item.mapNumbers change)) ++
          [']']) := by
  rw [mapNumbers_list, Style.chars_list, style.ofItems_map (isComposite_mapNumbers change),
    List.map_map]
  rfl

theorem chars_mapNumbers_record (style : Style) (fields : List (String × Value)) :
    style.chars ((record fields).mapNumbers change) =
      '{' :: ((style.ofMembers fields).2.fill
        (fields.map fun field => keyChars field.1 ++
          ':' :: ' ' :: (style.ofMembers fields).1.chars (field.2.mapNumbers change)) ++ ['}']) := by
  rw [mapNumbers_record, Style.chars_record, style.ofMembers_map, List.map_map]
  rfl

variable {change} {other : Number → Number}

/-- Values are laid out alike whose numbers are written alike. -/
theorem chars_mapNumbers_congr (value : Value)
    (alike : ∀ content, .number content ∈ value.nodes →
      (change content).chars = (other content).chars) (style : Style) :
    style.chars (value.mapNumbers change) = style.chars (value.mapNumbers other) := by
  induction value using Value.induction generalizing style with
  | list items induction =>
      rw [chars_mapNumbers_list, chars_mapNumbers_list, List.map_congr_left]
      intro item member
      exact induction item member (fun content inItem =>
        alike content (nodes_item_subset member inItem)) _
  | record fields induction =>
      rw [chars_mapNumbers_record, chars_mapNumbers_record, List.map_congr_left]
      intro field member
      rw [induction field member fun content inField =>
        alike content (nodes_field_subset member inField)]
  | leaf value leaf =>
      rw [Style.chars_leaf (by rw [isComposite_mapNumbers, leaf]),
        Style.chars_leaf (by rw [isComposite_mapNumbers, leaf])]
      cases value with
      | number content => exact alike content List.mem_cons_self
      | list items => cases leaf
      | record fields => cases leaf
      | _ => rfl

end Value

end EntitySchema
