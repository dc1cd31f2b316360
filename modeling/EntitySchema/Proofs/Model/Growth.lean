import Mathlib
import EntitySchema.Proofs.Nullability
/-!
Graphs that are built one operation after another.

A graph only grows at its end. So an id that was given out keeps its node, and a search that has
found a node finds it again, whatever is added behind it.
-/

namespace EntitySchema

namespace Graph

variable {graph later : Graph} {accepts : TypeNode → Bool} {id : TypeId}

/-! ## Ids and indices -/

theorem get?_idOfIndex {index : Nat} (isWord : index < UInt64.size) :
    graph.get? (idOfIndex index) = graph.types[index]? := by
  rw [get?, idOfIndex, UInt64.toNat_ofNat_of_lt' isWord]

theorem exists_get?_idOfIndex {index : Nat} (inRange : index < graph.size) :
    ∃ node, graph.get? (idOfIndex index) = some node := by
  have inRangeToo : (idOfIndex index).index.toNat < graph.types.size := by
    rw [idOfIndex, UInt64.toNat_ofNat']
    exact (Nat.mod_le _ _).trans_lt inRange
  exact ⟨_, Array.getElem?_eq_getElem inRangeToo⟩

/-- What a search finds is in the graph, and it is a node that was searched for, unless there are
more nodes than ids. -/
theorem exists_get?_of_findId? (found : graph.findId? accepts = some id) :
    ∃ node, graph.get? id = some node ∧ (graph.size ≤ UInt64.size → accepts node = true) := by
  rcases Option.map_eq_some_iff.mp found with ⟨index, searched, rfl⟩
  rcases Array.findIdx?_eq_some_iff_getElem.mp searched with ⟨inRange, accepted, _⟩
  rcases exists_get?_idOfIndex inRange with ⟨node, atId⟩
  refine ⟨node, atId, fun small => ?_⟩
  rw [get?_idOfIndex (inRange.trans_le small), Array.getElem?_eq_getElem inRange] at atId
  rwa [← Option.some.inj atId]

theorem findId?_eq_none_iff :
    graph.findId? accepts = none ↔ ∀ node ∈ graph.types, accepts node = false := by
  rw [findId?, Option.map_eq_none_iff, Array.findIdx?_eq_none_iff]

/-! ## More nodes behind a graph -/

def Continues (later graph : Graph) : Prop := ∃ nodes, later.types = graph.types ++ nodes

theorem Continues.refl (graph : Graph) : graph.Continues graph := ⟨#[], by simp⟩

theorem Continues.trans {middle : Graph} (second : later.Continues middle)
    (first : middle.Continues graph) : later.Continues graph := by
  rcases second with ⟨lastNodes, ofLater⟩
  rcases first with ⟨firstNodes, ofMiddle⟩
  exact ⟨firstNodes ++ lastNodes, by rw [ofLater, ofMiddle, Array.append_assoc]⟩

theorem Continues.get? {node : TypeNode} (continues : later.Continues graph)
    (found : graph.get? id = some node) : later.get? id = some node := by
  rcases continues with ⟨nodes, ofLater⟩
  have same : later = ⟨graph.types ++ nodes⟩ := congrArg Graph.mk ofLater
  exact same ▸ extends_append graph nodes id node found

theorem Continues.findId? (continues : later.Continues graph)
    (found : graph.findId? accepts = some id) : later.findId? accepts = some id := by
  rcases continues with ⟨nodes, ofLater⟩
  rcases Option.map_eq_some_iff.mp found with ⟨index, searched, rfl⟩
  rw [Graph.findId?, ofLater, Array.findIdx?_append, searched]
  rfl

theorem continues_add (graph : Graph) (node : TypeNode) :
    (graph.add node).1.Continues graph := ⟨#[node], Array.push_eq_append⟩

theorem size_add (graph : Graph) (node : TypeNode) :
    (graph.add node).1.size = graph.size + 1 := Array.size_push node

theorem findId?_add {node : TypeNode} (absent : graph.findId? accepts = none)
    (accepted : accepts node = true) :
    (graph.add node).1.findId? accepts = some (graph.add node).2 := by
  simp only [findId?, Option.map_eq_none_iff] at absent
  simp [findId?, add, Array.findIdx?_push, absent, accepted]

/-! ## One operation -/

inductive Operation where
  | add (node : TypeNode)
  | intrinsic (intrinsic : Intrinsic)

namespace Operation

variable {operation : Operation}

def apply (graph : Graph) : Operation → Graph × TypeId
  | .add node => graph.add node
  | .intrinsic asked => graph.intrinsic asked

def Wants : Operation → TypeNode → Prop
  | .add added, node => node = added
  | .intrinsic asked, node => node.isRootScalar asked.name = true

def IsNew (graph : Graph) : Operation → Prop
  | .add _ => True
  | .intrinsic asked => ∀ node ∈ graph.types, node.isRootScalar asked.name = false

theorem isRootScalar_scalar (asked : Intrinsic) :
    TypeNode.isRootScalar asked.name (.scalar { name := asked.name }) = true := by
  simp [TypeNode.isRootScalar]

/-- An operation either finds its node or adds it at the end. -/
theorem apply_cases (graph : Graph) (operation : Operation) :
    (operation.IsNew graph ∧ ∃ node, operation.Wants node ∧
      operation.apply graph = graph.add node) ∨
    ∃ asked id, operation = .intrinsic asked ∧ ¬operation.IsNew graph ∧
      graph.findId? (TypeNode.isRootScalar asked.name) = some id ∧
      operation.apply graph = (graph, id) := by
  cases operation with
  | add node => exact .inl ⟨trivial, node, rfl, rfl⟩
  | intrinsic asked =>
      cases searched : graph.findId? (TypeNode.isRootScalar asked.name) with
      | none =>
          refine .inl ⟨findId?_eq_none_iff.mp searched, _, isRootScalar_scalar asked, ?_⟩
          simp [apply, Graph.intrinsic, searched]
      | some id =>
          refine .inr ⟨asked, id, rfl, fun isNew => ?_, searched, ?_⟩
          · rw [findId?_eq_none_iff.mpr isNew] at searched
            cases searched
          · simp [apply, Graph.intrinsic, searched]

theorem continues_apply (graph : Graph) (operation : Operation) :
    (operation.apply graph).1.Continues graph := by
  rcases apply_cases graph operation with ⟨_, node, _, applied⟩ | ⟨_, _, _, _, _, applied⟩
  · rw [applied]
    exact continues_add graph node
  · rw [applied]
    exact .refl graph

theorem size_apply_of_isNew (isNew : operation.IsNew graph) :
    (operation.apply graph).1.size = graph.size + 1 := by
  rcases apply_cases graph operation with ⟨_, node, _, applied⟩ | ⟨_, _, _, known, _⟩
  · rw [applied, size_add]
  · exact absurd isNew known

theorem apply_of_not_isNew (known : ¬operation.IsNew graph) :
    (operation.apply graph).1 = graph := by
  rcases apply_cases graph operation with ⟨isNew, _⟩ | ⟨_, _, _, _, _, applied⟩
  · exact absurd isNew known
  · rw [applied]

theorem size_apply_le (graph : Graph) (operation : Operation) :
    (operation.apply graph).1.size ≤ graph.size + 1 := by
  by_cases isNew : operation.IsNew graph
  · exact (size_apply_of_isNew isNew).le
  · rw [apply_of_not_isNew isNew]
    exact Nat.le_succ _

/-- The id of an operation stands for a node that the operation wants. -/
theorem exists_get?_apply (graph : Graph) (operation : Operation) :
    ∃ node, (operation.apply graph).1.get? (operation.apply graph).2 = some node ∧
      (graph.size < UInt64.size → operation.Wants node) := by
  rcases apply_cases graph operation with
    ⟨_, added, wanted, applied⟩ | ⟨asked, id, rfl, _, searched, applied⟩
  · rw [applied]
    have inRange : graph.size < (graph.add added).1.size := by
      rw [size_add]
      exact Nat.lt_succ_self _
    rcases exists_get?_idOfIndex inRange with ⟨node, found⟩
    refine ⟨node, found, fun small => ?_⟩
    rw [get?_idOfIndex small] at found
    have isAdded : node = added :=
      Option.some.inj (found.symm.trans Array.getElem?_push_size)
    rwa [isAdded]
  · rw [applied]
    rcases exists_get?_of_findId? searched with ⟨node, found, accepted⟩
    exact ⟨node, found, fun small => accepted small.le⟩

/-- After an intrinsic was asked for, a search finds the id that was given. -/
theorem findId?_apply_intrinsic (graph : Graph) (asked : Intrinsic) :
    (apply graph (.intrinsic asked)).1.findId? (TypeNode.isRootScalar asked.name) =
      some (apply graph (.intrinsic asked)).2 := by
  cases searched : graph.findId? (TypeNode.isRootScalar asked.name) with
  | some id => simp [apply, Graph.intrinsic, searched]
  | none =>
      simp only [apply, Graph.intrinsic, searched]
      exact findId?_add searched (isRootScalar_scalar asked)

end Operation

/-! ## One operation after another -/

def grow (graph : Graph) (operations : List Operation) : Graph :=
  operations.foldl (fun graph operation => (operation.apply graph).1) graph

theorem continues_grow (graph : Graph) (operations : List Operation) :
    (graph.grow operations).Continues graph := by
  induction operations generalizing graph with
  | nil => exact .refl graph
  | cons operation rest induction =>
      exact (induction _).trans (operation.continues_apply graph)

theorem size_grow_le (graph : Graph) (operations : List Operation) :
    (graph.grow operations).size ≤ graph.size + operations.length := by
  induction operations generalizing graph with
  | nil => exact le_rfl
  | cons operation rest induction =>
      have grown := induction (operation.apply graph).1
      have first := operation.size_apply_le graph
      rw [List.length_cons]
      exact grown.trans (by omega)

/-- A graph that is built from nothing, seen at any operation of its history: the id that the
operation gives stands for the same node ever after, and for the node that was asked for as long as
there are no more nodes than ids. An intrinsic keeps its id and is not added again. The graph has
grown by one if the node was not there, and else it is the same. What a search by name finds before
the operation, it finds ever after, and this id keeps its node too. -/
theorem ids_of_grow (before after : List Operation) (operation : Operation) :
    let graph := empty.grow before
    let next := (operation.apply graph).1
    let id := (operation.apply graph).2
    let later := next.grow after
    (∃ node, next.get? id = some node ∧ later.get? id = some node ∧
      (before.length < UInt64.size → operation.Wants node)) ∧
    (∀ intrinsic, operation = .intrinsic intrinsic → later.intrinsic intrinsic = (later, id)) ∧
    (operation.IsNew graph → next.size = graph.size + 1) ∧
    (¬operation.IsNew graph → next = graph) ∧
    ∀ name found, graph.find? name = some found → later.find? name = some found ∧
      ∃ node, graph.get? found = some node ∧ later.get? found = some node ∧
        (before.length < UInt64.size → node.name? = some name) := by
  intro graph next id later
  have fromNext : later.Continues next := next.continues_grow after
  have fromGraph : later.Continues graph := fromNext.trans (operation.continues_apply graph)
  have bounded : graph.size ≤ before.length := by
    exact (size_grow_le empty before).trans_eq (Nat.zero_add _)
  refine ⟨?_, ?_, Operation.size_apply_of_isNew, Operation.apply_of_not_isNew, ?_⟩
  · rcases operation.exists_get?_apply graph with ⟨node, found, wanted⟩
    exact ⟨node, found, fromNext.get? found, fun small => wanted (bounded.trans_lt small)⟩
  · rintro intrinsic rfl
    have searched := fromNext.findId? (Operation.findId?_apply_intrinsic graph intrinsic)
    simp only [Graph.intrinsic, searched]
    rfl
  · intro name found searched
    rcases exists_get?_of_findId? searched with ⟨node, atFound, accepted⟩
    refine ⟨fromGraph.findId? searched, node, atFound, fromGraph.get? atFound, fun small => ?_⟩
    simpa using accepted (bounded.trans small.le)

/-- A derived scalar with the name of an intrinsic, another intrinsic, and a root scalar that was
added under the name before the intrinsic was asked for. -/
def sharedNames : List Operation :=
  [.add (.scalar { name := "int32", base := some (idOfIndex 2) }), .intrinsic .string,
    .add (.scalar { name := "int32" })]

theorem grow_sharedNames : empty.grow sharedNames =
    ⟨#[.scalar { name := "int32", base := some (idOfIndex 2) }, .scalar { name := "string" },
      .scalar { name := "int32" }]⟩ := by
  simp [grow, sharedNames, Operation.apply, add, Graph.intrinsic, findId?, empty,
    TypeNode.isRootScalar, Intrinsic.name]

theorem ids_of_grow_sharedNames :
    let graph := empty.grow sharedNames
    let given := ((Operation.intrinsic .int32).apply graph).2
    let later := ((Operation.intrinsic .int32).apply graph).1.grow [.add .null, .intrinsic .url]
    (∃ node, later.get? given = some node ∧ node.isRootScalar "int32" = true) ∧
    later.intrinsic .int32 = (later, given) ∧
    ((Operation.intrinsic .int32).apply graph).1 = graph ∧
    later.find? "int32" = some (idOfIndex 0) := by
  intro graph given later
  obtain ⟨⟨node, _, resolved, wanted⟩, reused, _, unchanged, foundAgain⟩ :=
    ids_of_grow sharedNames [.add .null, .intrinsic .url] (.intrinsic .int32)
  have isWord : sharedNames.length < UInt64.size := by decide
  refine ⟨⟨node, resolved, wanted isWord⟩, reused .int32 rfl, unchanged ?_, ?_⟩
  · simp [Operation.IsNew, grow_sharedNames, TypeNode.isRootScalar, Intrinsic.name]
  · refine (foundAgain "int32" (idOfIndex 0) ?_).1
    rw [grow_sharedNames]
    decide +kernel

end Graph

end EntitySchema
