import Mathlib
import EntitySchema.Proofs.Record
import EntitySchema.Value.Writer
/-!
The nodes of a value: the value itself and everything inside its lists and records, in the order in
which they are written. What is said about a value at every depth is said about its nodes.
-/

namespace EntitySchema

namespace Value

/-- What holds of a list if it holds of its items, of a record if it holds of its values, and of
all other values, holds of every value. -/
@[elab_as_elim]
theorem induction {motive : Value → Prop}
    (list : ∀ items, (∀ item ∈ items, motive item) → motive (.list items))
    (record : ∀ fields, (∀ field ∈ fields, motive field.2) → motive (.record fields))
    (leaf : ∀ value, value.isComposite = false → motive value) (value : Value) : motive value :=
  match value with
  | .list items => list items fun item _ => induction list record leaf item
  | .record fields => record fields fun field _ => induction list record leaf field.2
  | .undefined => leaf .undefined rfl
  | .null => leaf .null rfl
  | .bool content => leaf (.bool content) rfl
  | .number content => leaf (.number content) rfl
  | .text content => leaf (.text content) rfl
  | .source code => leaf (.source code) rfl
termination_by sizeOf value
decreasing_by
  · next member =>
      have smaller := List.sizeOf_lt_of_mem member
      simp only [Value.list.sizeOf_spec]
      omega
  · next member =>
      have smaller := List.sizeOf_lt_of_mem member
      have part : sizeOf field.2 < sizeOf field := by
        cases field
        simp only [Prod.mk.sizeOf_spec]
        omega
      simp only [Value.record.sizeOf_spec]
      omega

/-! ## Nodes -/

mutual

/-- A value and the nodes inside it, each one in front of those inside it. -/
def nodes : Value → List Value
  | .list items => .list items :: itemNodes items
  | .record fields => .record fields :: fieldNodes fields
  | leaf => [leaf]

def itemNodes : List Value → List Value
  | [] => []
  | item :: rest => nodes item ++ itemNodes rest

def fieldNodes : List (String × Value) → List Value
  | [] => []
  | (_, value) :: rest => nodes value ++ fieldNodes rest

end

theorem itemNodes_eq_flatMap (items : List Value) : itemNodes items = items.flatMap nodes := by
  induction items with
  | nil => rfl
  | cons item rest induction => rw [itemNodes, induction, List.flatMap_cons]

theorem fieldNodes_eq_flatMap (fields : List (String × Value)) :
    fieldNodes fields = fields.flatMap fun field => field.2.nodes := by
  induction fields with
  | nil => rfl
  | cons field rest induction => rw [fieldNodes, induction, List.flatMap_cons]

@[simp] theorem nodes_list (items : List Value) :
    nodes (.list items) = .list items :: items.flatMap nodes := by
  rw [nodes, itemNodes_eq_flatMap]

@[simp] theorem nodes_record (fields : List (String × Value)) :
    nodes (.record fields) = .record fields :: fields.flatMap fun field => field.2.nodes := by
  rw [nodes, fieldNodes_eq_flatMap]

theorem nodes_leaf {value : Value} (leaf : value.isComposite = false) : value.nodes = [value] := by
  cases value with
  | list items => cases leaf
  | record fields => cases leaf
  | _ => rfl

theorem nodes_item_subset {items : List Value} {item : Value} (member : item ∈ items) :
    item.nodes ⊆ (Value.list items).nodes := by
  intro node inItem
  rw [nodes_list]
  exact List.mem_cons_of_mem _ (List.mem_flatMap.mpr ⟨item, member, inItem⟩)

theorem nodes_field_subset {fields : List (String × Value)} {field : String × Value}
    (member : field ∈ fields) : field.2.nodes ⊆ (Value.record fields).nodes := by
  intro node inField
  rw [nodes_record]
  exact List.mem_cons_of_mem _ (List.mem_flatMap.mpr ⟨field, member, inField⟩)

/-! ## What values may hold -/

def source? : Value → Option String
  | .source code => some code
  | _ => none

def sources (value : Value) : List String := value.nodes.filterMap source?

def IsSourceFree (value : Value) : Prop := ∀ code, .source code ∉ value.nodes

def HasFiniteNumbers (value : Value) : Prop :=
  ∀ number, .number number ∈ value.nodes → number.isFinite = true

def HasBuiltRecords (value : Value) : Prop :=
  ∀ fields, .record fields ∈ value.nodes → Record.IsBuilt fields

theorem mem_sources {value : Value} {code : String} :
    code ∈ value.sources ↔ .source code ∈ value.nodes := by
  simp only [sources, List.mem_filterMap]
  constructor
  · rintro ⟨node, member, found⟩
    cases node with
    | source other =>
        cases found
        exact member
    | _ => cases found
  · intro member
    exact ⟨.source code, member, rfl⟩

theorem sources_list (items : List Value) : (list items).sources = items.flatMap sources := by
  rw [sources, nodes_list, List.filterMap_cons_none rfl, List.filterMap_flatMap]
  rfl

theorem sources_record (fields : List (String × Value)) :
    (record fields).sources = fields.flatMap fun field => field.2.sources := by
  rw [sources, nodes_record, List.filterMap_cons_none rfl, List.filterMap_flatMap]
  rfl

/-! ## Faults -/

/-- Why a node cannot be written, apart from what is inside it. -/
def nodeFault? : Value → Option WriteFault
  | .number value => if value.isFinite then none else some (.nonFinite value)
  | .source code => if isBlankText code then some .emptySource else none
  | _ => none

theorem itemsFault?_eq_findSome?_nodes (items : List Value)
    (each : ∀ item ∈ items, item.fault? = item.nodes.findSome? nodeFault?) :
    itemsFault? items = (items.flatMap nodes).findSome? nodeFault? := by
  induction items with
  | nil => rfl
  | cons item rest induction =>
      have inRest := induction fun other member => each other (List.mem_cons_of_mem _ member)
      rw [itemsFault?, each item List.mem_cons_self, inRest, List.flatMap_cons,
        List.findSome?_append]

theorem fieldsFault?_eq_findSome?_nodes (fields : List (String × Value))
    (each : ∀ field ∈ fields, field.2.fault? = field.2.nodes.findSome? nodeFault?) :
    fieldsFault? fields = (fields.flatMap fun field => field.2.nodes).findSome? nodeFault? := by
  induction fields with
  | nil => rfl
  | cons field rest induction =>
      have inRest := induction fun other member => each other (List.mem_cons_of_mem _ member)
      rw [fieldsFault?, each field List.mem_cons_self, inRest, List.flatMap_cons,
        List.findSome?_append]

theorem write_eq_error_iff {indent : Nat} {value : Value} {fault : WriteFault} :
    value.write indent = .error fault ↔ value.fault? = some fault := by
  unfold write
  cases value.fault? <;> simp

/-- A value cannot be written because of the first of its nodes that cannot be written. -/
theorem fault?_eq_findSome?_nodes (value : Value) :
    value.fault? = value.nodes.findSome? nodeFault? := by
  induction value using Value.induction with
  | list items induction =>
      rw [fault?, nodes_list, List.findSome?_cons_of_isNone rfl]
      exact itemsFault?_eq_findSome?_nodes items induction
  | record fields induction =>
      rw [fault?, nodes_record, List.findSome?_cons_of_isNone rfl]
      exact fieldsFault?_eq_findSome?_nodes fields induction
  | leaf value leaf =>
      rw [nodes_leaf leaf]
      cases value with
      | list items => cases leaf
      | record fields => cases leaf
      | _ => simp [fault?, nodeFault?]

theorem fault?_eq_none_iff (value : Value) :
    value.fault? = none ↔
      value.HasFiniteNumbers ∧ ∀ code ∈ value.sources, isBlankText code = false := by
  rw [fault?_eq_findSome?_nodes, List.findSome?_eq_none_iff]
  constructor
  · intro faultless
    constructor
    · intro number member
      simpa [nodeFault?] using faultless _ member
    · intro code member
      simpa [nodeFault?] using faultless _ (mem_sources.mp member)
  · rintro ⟨finite, visible⟩ node member
    cases node with
    | number value => simp [nodeFault?, finite value member]
    | source code => simp [nodeFault?, visible code (mem_sources.mpr member)]
    | _ => rfl

end Value

end EntitySchema
