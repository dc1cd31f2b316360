import Mathlib
import EntitySchema.Attribute.TypeExpression
import EntitySchema.Proofs.Except
/-!
The types that a type is expanded into.

Expanding a type goes on from an array to its elements, from a union to its variants, from a tuple
to its items, and from a record to the types of its properties. A record that stands for an array
counts as an array here; all others are plain. Only plain records may close a cycle.
-/

namespace EntitySchema

namespace Graph

/-! ## Edges and paths -/

def isPlainRecord (graph : Graph) (id : TypeId) : Bool :=
  match graph.get? id with
  | some (.record record) => record.arrayElement?.isNone
  | _ => false

def children (graph : Graph) (id : TypeId) : List TypeId :=
  match graph.get? id with
  | some (.array element) => [element]
  | some (.record record) =>
    match record.arrayElement? with
    | some element => [element]
    | none =>
      match graph.recordProperties record with
      | .ok properties => properties.map Property.type
      | .error _ => []
  | some (.union union) => union.variants
  | some (.tuple items) => items
  | _ => []

def Expands (graph : Graph) (id child : TypeId) : Prop := child ∈ graph.children id

def IsPath (graph : Graph) (path : List TypeId) : Prop := path.IsChain graph.Expands

def plainRecords (graph : Graph) (path : List TypeId) : List TypeId :=
  path.filter graph.isPlainRecord

/-- Every cycle of expansion passes a plain record. -/
def IsGuarded (graph : Graph) : Prop :=
  ∀ id path, graph.IsPath (id :: (path ++ [id])) → graph.plainRecords (id :: path) ≠ []

/-! ## What may be expanded -/

/-- Types inside a union are only written as expressions, and more of them can be. -/
inductive Context where
  | attribute
  | expression
  deriving DecidableEq, Repr

def contextBelow (graph : Graph) (context : Context) (id : TypeId) : Context :=
  match graph.get? id with
  | some (.union _) => .expression
  | _ => context

inductive Visits (graph : Graph) (context : Context) (id : TypeId) : Context → TypeId → Prop
  | start : Visits graph context id context id
  | step {visited : Context} {parent child : TypeId} : Visits graph context id visited parent →
      graph.Expands parent child →
      Visits graph context id (graph.contextBelow visited parent) child

/-- The root of the chain of a scalar is not the type of binary data. -/
def IsTextualScalar (graph : Graph) (id : TypeId) : Prop :=
  ∃ chain root, graph.scalarChain id = .ok chain ∧ chain.getLast? = some root ∧
    root.name ≠ Intrinsic.bytes.name

/-- Whether a type can be written, apart from the types that it is expanded into. -/
def IsAdmissible (graph : Graph) (context : Context) (id : TypeId) : Prop :=
  match graph.get? id with
  | none => False
  | some (.scalar _) => graph.IsTextualScalar id
  | some (.record record) =>
    record.arrayElement? = none → Succeeds (graph.recordProperties record)
  | some (.array _) => True
  | some (.enum enum) => enum.members ≠ []
  | some (.union union) => union.variants ≠ []
  | some .void => False
  | some .never => False
  | some _ => context = .expression

/-- A type that expands to finitely many types, none of which is in the way. -/
structure IsExpandable (graph : Graph) (id : TypeId) : Prop where
  nodup : ∀ path, graph.IsPath (id :: path) → (graph.plainRecords (id :: path)).Nodup
  length_le : ∀ path, graph.IsPath (id :: path) →
    (graph.plainRecords (id :: path)).length ≤ maxChainDepth
  admissible : ∀ context visited, graph.Visits .attribute id context visited →
    graph.IsAdmissible context visited

/-! ## Open records -/

def openedBelow (graph : Graph) (opened : List TypeId) (id : TypeId) : List TypeId :=
  if graph.isPlainRecord id then id :: opened else opened

/-- The plain records of the path can be opened one inside the other. -/
structure Fits (graph : Graph) (opened path : List TypeId) : Prop where
  nodup : (graph.plainRecords path).Nodup
  notOpened : ∀ id ∈ graph.plainRecords path, id ∉ opened
  length_le : (graph.plainRecords path).length + opened.length ≤ maxChainDepth

variable {graph : Graph} {opened path : List TypeId} {context : Context} {id : TypeId}

theorem fits_nil : graph.Fits opened [] ↔ opened.length ≤ maxChainDepth := by
  constructor
  · intro fits
    simpa [plainRecords] using fits.length_le
  · intro shallow
    constructor <;> simp [plainRecords, shallow]

theorem fits_cons : graph.Fits opened (id :: path) ↔
    (graph.isPlainRecord id = true → id ∉ opened) ∧
      graph.Fits (graph.openedBelow opened id) path := by
  by_cases plain : graph.isPlainRecord id = true
  · have records : graph.plainRecords (id :: path) = id :: graph.plainRecords path := by
      simp [plainRecords, plain]
    rw [openedBelow, if_pos plain]
    constructor
    · rintro ⟨nodup, notOpened, length_le⟩
      rw [records] at nodup notOpened length_le
      have parts := List.nodup_cons.mp nodup
      refine ⟨fun _ => notOpened id List.mem_cons_self, parts.2, ?_, ?_⟩
      · intro other member
        simp only [List.mem_cons, not_or]
        exact ⟨fun equal => parts.1 (equal ▸ member),
          notOpened other (List.mem_cons_of_mem _ member)⟩
      · simp only [List.length_cons] at length_le ⊢
        omega
    · rintro ⟨notOpened, nodup, notOpenedBelow, length_le⟩
      have different : id ∉ graph.plainRecords path :=
        fun member => notOpenedBelow id member List.mem_cons_self
      constructor <;> rw [records]
      · exact List.nodup_cons.mpr ⟨different, nodup⟩
      · rw [List.forall_mem_cons]
        exact ⟨notOpened plain,
          fun other member => (not_or.mp (List.mem_cons.not.mp (notOpenedBelow other member))).2⟩
      · simp only [List.length_cons] at length_le ⊢
        omega
  · have records : graph.plainRecords (id :: path) = graph.plainRecords path := by
      simp [plainRecords, plain]
    rw [openedBelow, if_neg plain]
    constructor
    · rintro ⟨nodup, notOpened, length_le⟩
      rw [records] at nodup notOpened length_le
      exact ⟨fun plain' => absurd plain' plain, nodup, notOpened, length_le⟩
    · rintro ⟨_, nodup, notOpened, length_le⟩
      constructor <;> rwa [records]

theorem Fits.opened_length_le (fits : graph.Fits opened path) : opened.length ≤ maxChainDepth :=
  (Nat.le_add_left _ _).trans fits.length_le

/-! ## Expanding one type after another -/

/-- What is left of `IsExpandable` below some records that are open. -/
structure ExpandsFrom (graph : Graph) (opened : List TypeId) (context : Context) (id : TypeId) :
    Prop where
  fits : ∀ path, graph.IsPath (id :: path) → graph.Fits opened (id :: path)
  admissible : ∀ visitedIn visited, graph.Visits context id visitedIn visited →
    graph.IsAdmissible visitedIn visited

theorem isExpandable_iff : graph.IsExpandable id ↔ graph.ExpandsFrom [] .attribute id := by
  constructor
  · intro expandable
    refine ⟨fun path isPath => ⟨expandable.nodup path isPath, by simp, ?_⟩, expandable.admissible⟩
    simpa using expandable.length_le path isPath
  · intro expands
    refine ⟨fun path isPath => (expands.fits path isPath).nodup, fun path isPath => ?_,
      expands.admissible⟩
    simpa using (expands.fits path isPath).length_le

theorem visits_iff {visitedIn : Context} {visited : TypeId} :
    graph.Visits context id visitedIn visited ↔
      (visitedIn = context ∧ visited = id) ∨
        ∃ child, graph.Expands id child ∧
          graph.Visits (graph.contextBelow context id) child visitedIn visited := by
  constructor
  · intro visits
    induction visits with
    | start => exact .inl ⟨rfl, rfl⟩
    | step _ expands induction =>
        rcases induction with ⟨rfl, rfl⟩ | ⟨child, first, rest⟩
        · exact .inr ⟨_, expands, .start⟩
        · exact .inr ⟨child, first, rest.step expands⟩
  · rintro (⟨rfl, rfl⟩ | ⟨child, first, rest⟩)
    · exact .start
    · induction rest with
      | start => exact Visits.start.step first
      | step _ expands induction => exact induction.step expands

/-- A type expands if it is in nobody's way and the types below it expand. -/
theorem expandsFrom_iff : graph.ExpandsFrom opened context id ↔
    graph.IsAdmissible context id ∧ graph.Fits opened [id] ∧
      ∀ child ∈ graph.children id,
        graph.ExpandsFrom (graph.openedBelow opened id) (graph.contextBelow context id) child := by
  constructor
  · intro expands
    refine ⟨expands.admissible _ _ .start, expands.fits [] (List.isChain_singleton id),
      fun child below => ⟨?_, ?_⟩⟩
    · intro path isPath
      exact (fits_cons.mp (expands.fits (child :: path)
        (List.isChain_cons_cons.mpr ⟨below, isPath⟩))).2
    · intro visitedIn visited visits
      exact expands.admissible _ _ (visits_iff.mpr (.inr ⟨child, below, visits⟩))
  · rintro ⟨admissible, fits, expands⟩
    constructor
    · intro path isPath
      cases path with
      | nil => exact fits
      | cons child path =>
          rcases List.isChain_cons_cons.mp isPath with ⟨below, isPath⟩
          exact fits_cons.mpr ⟨(fits_cons.mp fits).1, (expands child below).fits path isPath⟩
    · intro visitedIn visited visits
      rcases visits_iff.mp visits with ⟨rfl, rfl⟩ | ⟨child, below, visits⟩
      · exact admissible
      · exact (expands child below).admissible _ _ visits

/-! ## Ranks

Between plain records expansion cannot go in circles, so the number of types that can still be
reached without opening a record goes down at every step. -/

def Unwraps (graph : Graph) (id child : TypeId) : Prop :=
  graph.isPlainRecord id = false ∧ graph.Expands id child

def Unwrapped (graph : Graph) : TypeId → TypeId → Prop := Relation.ReflTransGen graph.Unwraps

open scoped Classical in
noncomputable def reached (graph : Graph) (id : TypeId) : Finset Nat :=
  (Finset.range graph.size).filter fun index => graph.Unwrapped id (idOfIndex index)

noncomputable def rank (graph : Graph) (id : TypeId) : Nat := (graph.reached id).card

theorem mem_reached {index : Nat} :
    index ∈ graph.reached id ↔ index < graph.size ∧ graph.Unwrapped id (idOfIndex index) := by
  simp only [reached, Finset.mem_filter, Finset.mem_range]

theorem rank_le_size : graph.rank id ≤ graph.size := by
  have subset : graph.reached id ⊆ Finset.range graph.size := fun index member =>
    Finset.mem_range.mpr (mem_reached.mp member).1
  simpa [rank] using Finset.card_le_card subset

theorem lt_size_of_get? {node : TypeNode} (found : graph.get? id = some node) :
    id.index.toNat < graph.size :=
  (Array.getElem?_eq_some_iff.mp found).1

theorem idOfIndex_toNat (id : TypeId) : idOfIndex id.index.toNat = id := by
  simp [idOfIndex]

theorem mem_reached_self {node : TypeNode} (found : graph.get? id = some node) :
    id.index.toNat ∈ graph.reached id := by
  rw [mem_reached, idOfIndex_toNat]
  exact ⟨lt_size_of_get? found, .refl⟩

theorem rank_pos {node : TypeNode} (found : graph.get? id = some node) : 0 < graph.rank id :=
  Finset.card_pos.mpr ⟨_, mem_reached_self found⟩

theorem exists_get?_of_expands {child : TypeId} (expands : graph.Expands id child) :
    ∃ node, graph.get? id = some node := by
  cases found : graph.get? id with
  | none => simp [Expands, children, found] at expands
  | some node => exact ⟨node, rfl⟩

/-- A path on which every type but the last one is unwrapped passes no record that is opened. -/
theorem plainRecords_eq_nil_of_unwraps {path : List TypeId} {last : TypeId}
    (chain : (path ++ [last]).IsChain graph.Unwraps) : graph.plainRecords path = [] := by
  induction path with
  | nil => rfl
  | cons id rest induction =>
      have inRest := induction chain.tail
      have notPlain : graph.isPlainRecord id = false := by
        cases rest with
        | nil => exact (List.isChain_cons_cons.mp chain).1.1
        | cons next rest => exact (List.isChain_cons_cons.mp chain).1.1
      simpa [plainRecords, notPlain] using inRest

theorem IsGuarded.not_unwrapped {child : TypeId} (guarded : graph.IsGuarded)
    (unwraps : graph.Unwraps id child) : ¬graph.Unwrapped child id := by
  intro back
  rcases List.exists_isChain_cons_of_relationReflTransGen back with ⟨path, chain, last⟩
  have split : (child :: path).dropLast ++ [id] = child :: path := by
    rw [← last, List.dropLast_append_getLast]
  have cycle : (id :: ((child :: path).dropLast ++ [id])).IsChain graph.Unwraps := by
    rw [split]
    exact List.isChain_cons_cons.mpr ⟨unwraps, chain⟩
  have isPath : graph.IsPath (id :: ((child :: path).dropLast ++ [id])) :=
    cycle.imp fun _ _ step => step.2
  exact guarded id _ isPath (plainRecords_eq_nil_of_unwraps cycle)

/-- A step that cannot be undone leaves fewer types to be reached. -/
theorem Unwraps.rank_lt {child : TypeId} (unwraps : graph.Unwraps id child)
    (noWayBack : ¬graph.Unwrapped child id) : graph.rank child < graph.rank id := by
  rcases exists_get?_of_expands unwraps.2 with ⟨node, found⟩
  have subset : graph.reached child ⊆ graph.reached id := by
    intro index member
    rw [mem_reached] at member ⊢
    exact ⟨member.1, .head unwraps member.2⟩
  have notReached : id.index.toNat ∉ graph.reached child := by
    rw [mem_reached, idOfIndex_toNat]
    exact fun member => noWayBack member.2
  exact Finset.card_lt_card
    ((Finset.ssubset_iff_of_subset subset).mpr ⟨_, mem_reached_self found, notReached⟩)

noncomputable def room (graph : Graph) (opened : List TypeId) (id : TypeId) : Nat :=
  (maxChainDepth - opened.length) * graph.size + graph.rank id

theorem Expands.room_lt {child : TypeId} (expands : graph.Expands id child)
    (fits : graph.Fits opened [id])
    (noWayBack : graph.isPlainRecord id = false → ¬graph.Unwrapped child id) :
    graph.room (graph.openedBelow opened id) child < graph.room opened id := by
  by_cases plain : graph.isPlainRecord id = true
  · rcases exists_get?_of_expands expands with ⟨node, found⟩
    have positive := rank_pos found
    have bounded : graph.rank child ≤ graph.size := rank_le_size
    have shallow := (fits_nil.mp (fits_cons.mp fits).2)
    rw [openedBelow, if_pos plain] at shallow ⊢
    have oneLess : maxChainDepth - opened.length = maxChainDepth - (id :: opened).length + 1 := by
      rw [List.length_cons] at shallow ⊢
      omega
    rw [room, room, oneLess, Nat.add_one_mul]
    omega
  · have notPlain : graph.isPlainRecord id = false := by simpa using plain
    have lower := Unwraps.rank_lt ⟨notPlain, expands⟩ (noWayBack notPlain)
    rw [openedBelow, if_neg plain, room, room]
    omega

theorem IsGuarded.room_lt {child : TypeId} (guarded : graph.IsGuarded)
    (fits : graph.Fits opened [id]) (expands : graph.Expands id child) :
    graph.room (graph.openedBelow opened id) child < graph.room opened id :=
  expands.room_lt fits fun notPlain => guarded.not_unwrapped ⟨notPlain, expands⟩

theorem room_add_two_le_walkDepth (opened : List TypeId) :
    graph.room opened id + 2 ≤ graph.walkDepth := by
  have bounded : graph.rank id ≤ graph.size := rank_le_size
  have fewer : (maxChainDepth - opened.length) * graph.size ≤ maxChainDepth * graph.size :=
    Nat.mul_le_mul_right _ (Nat.sub_le _ _)
  simp only [room, walkDepth, maxChainDepth] at fewer ⊢
  omega

/-- A graph is guarded if something goes down at each step that does not open a record. -/
theorem isGuarded_of_decreasing (weight : TypeId → Nat)
    (nodes : ∀ index < graph.size, graph.isPlainRecord (idOfIndex index) = true ∨
      ∀ child ∈ graph.children (idOfIndex index), weight child < weight (idOfIndex index)) :
    graph.IsGuarded := by
  have decreasing : ∀ id child, graph.Unwraps id child → weight child < weight id := by
    rintro id child ⟨notPlain, expands⟩
    rcases exists_get?_of_expands expands with ⟨node, found⟩
    have atId := nodes id.index.toNat (lt_size_of_get? found)
    rw [idOfIndex_toNat, notPlain] at atId
    exact atId.resolve_left Bool.false_ne_true child expands
  have lower : ∀ path id last, graph.IsPath (id :: (path ++ [last])) →
      graph.plainRecords (id :: path) = [] → weight last < weight id := by
    intro path
    induction path with
    | nil =>
        intro id last isPath noRecord
        have notPlain : graph.isPlainRecord id = false := by simpa [plainRecords] using noRecord
        exact decreasing id last ⟨notPlain, (List.isChain_cons_cons.mp isPath).1⟩
    | cons next rest induction =>
        intro id last isPath noRecord
        obtain ⟨notPlain, noRecordBelow⟩ : graph.isPlainRecord id = false ∧
            graph.plainRecords (next :: rest) = [] := by
          cases plain : graph.isPlainRecord id <;> simp_all [plainRecords]
        rcases List.isChain_cons_cons.mp isPath with ⟨expands, isPath⟩
        exact (induction next last isPath noRecordBelow).trans
          (decreasing id next ⟨notPlain, expands⟩)
  intro id path isPath noRecord
  exact absurd (lower path id id isPath noRecord) (lt_irrefl _)

end Graph

end EntitySchema
