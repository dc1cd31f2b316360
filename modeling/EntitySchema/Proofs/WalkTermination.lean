import Mathlib
import EntitySchema.Proofs.AttributeType
import EntitySchema.Proofs.Derivation
/-!
Walks come to an end by themselves.

The walks here keep the open records as a stack, on which a record is put when it is opened and
from which it is taken when all of its properties are done, and they count how many calls are
nested in each other. They do what the walks of the library do, which are handed the open records.

Two things stop a walk: no record is opened twice and only so many are open at once, and between
two records the types contain each other without a cycle. So a walk goes on only as long as there
is room, and the depth that it is allowed does not matter.
-/

namespace EntitySchema

/-! ## Walks that keep a stack -/

/-- The records that are open, and how many calls are nested in each other, now and at most. -/
structure Track where
  opened : List TypeId
  level : Nat
  deepest : Nat

namespace Track

def start (opened : List TypeId) : Track := { opened, level := 0, deepest := 0 }

def down (track : Track) : Track :=
  { track with level := track.level + 1, deepest := max track.deepest (track.level + 1) }

def up (track : Track) : Track := { track with level := track.level - 1 }

end Track

/-- A walk that fails leaves the track as it was when it failed. -/
abbrev Tracked (α : Type) := ExceptT MappingError (StateM Track) α

namespace Tracked

variable {α β : Type}

def runFrom (walk : Tracked α) (track : Track) : Except MappingError α × Track :=
  walk.run.run track

def lift (result : Except MappingError α) : Tracked α := ExceptT.mk (pure result)

def call (body : Tracked α) : Tracked α := do
  modify Track.down
  let value ← body
  modify Track.up
  return value

def inside (id : TypeId) (name : String) (body : Tracked α) : Tracked α := do
  let opened ← lift (openRecord (← get).opened id name)
  modify fun track => { track with opened }
  let value ← body
  modify fun track => { track with opened := track.opened.tail }
  return value

theorem runFrom_bind_of_ok {walk : Tracked α} {track after : Track} {value : α}
    (ended : walk.runFrom track = (.ok value, after)) (next : α → Tracked β) :
    (walk >>= next).runFrom track = (next value).runFrom after :=
  run_bind_of_ok ended next

theorem runFrom_bind_of_error {walk : Tracked α} {track after : Track} {error : MappingError}
    (ended : walk.runFrom track = (.error error, after)) (next : α → Tracked β) :
    (walk >>= next).runFrom track = (.error error, after) :=
  run_bind_of_error ended next

theorem runFrom_call_of_ok {body : Tracked α} {track after : Track} {value : α}
    (ended : body.runFrom track.down = (.ok value, after)) :
    (call body).runFrom track = (.ok value, after.up) :=
  runFrom_bind_of_ok ended fun value => do
    modify Track.up
    return value

theorem runFrom_call_of_error {body : Tracked α} {track after : Track} {error : MappingError}
    (ended : body.runFrom track.down = (.error error, after)) :
    (call body).runFrom track = (.error error, after) :=
  runFrom_bind_of_error ended _

theorem runFrom_inside_of_refused {id : TypeId} {name : String} {body : Tracked α} {track : Track}
    {error : MappingError} (refused : openRecord track.opened id name = .error error) :
    (inside id name body).runFrom track = (.error error, track) :=
  runFrom_bind_of_error (congrArg (·, track) refused) _

theorem runFrom_inside {id : TypeId} {name : String} {body : Tracked α} {track : Track}
    {below : List TypeId} (opens : openRecord track.opened id name = .ok below) :
    (inside id name body).runFrom track =
      (body >>= fun value => do
        modify fun track => { track with opened := track.opened.tail }
        return value).runFrom { track with opened := below } :=
  runFrom_bind_of_ok (congrArg (·, track) opens) _

end Tracked

open Tracked

def TypeExpression.trackedWalk (graph : Graph) : Nat → TypeId → Tracked (List Char)
  | 0, id => lift (.error (.endless id))
  | depth + 1, id => call do
    match ← lift (fromGraph (graph.get id)) with
    | .scalar _ => return (← lift (graph.scalarKind id)).name.toList
    | .array element => return ofArray (← trackedWalk graph depth element)
    | .record record =>
      match record.arrayElement? with
      | some element => return ofArray (← trackedWalk graph depth element)
      | none => inside id record.name do
        let properties ← lift (fromGraph (graph.recordProperties record))
        let members ← properties.mapM fun property => do
          return ofMember property (← trackedWalk graph depth property.type)
        return ofMembers members
    | .enum enum => return ofVariants ((← lift enum.someValues).map ofLiteral)
    | .union union =>
      if union.variants.isEmpty then lift (.error (.emptyUnion union.displayName))
      else return ofVariants (← union.variants.mapM (trackedWalk graph depth))
    | .stringLiteral value => return quotedChars value.toList
    | .numericLiteral value => return value.chars
    | .booleanLiteral value => return (boolText value).toList
    | .tuple items => return ofTuple (← items.mapM (trackedWalk graph depth))
    | .null => return "null".toList
    | .unknown => return "unknown".toList
    | .void => lift (.error (.notExpressible TypeNode.void.kindName))
    | .never => lift (.error (.notExpressible TypeNode.never.kindName))

namespace AttributeType

def trackedElement (graph : Graph) (walkElement : TypeId → Tracked AttributeType)
    (element : TypeId) : Tracked AttributeType := do
  match ← lift (fromGraph (graph.get element)) with
  | .enum enum => return .set ((← lift enum.someValues).map Literal.plainText)
  | _ => return .list (← walkElement element)

def trackedWalk (graph : Graph) : Nat → TypeId → Tracked AttributeType
  | 0, id => lift (.error (.endless id))
  | depth + 1, id => call do
    match ← lift (fromGraph (graph.get id)) with
    | .scalar _ => return ofScalarKind (← lift (graph.scalarKind id))
    | .array element => trackedElement graph (trackedWalk graph depth) element
    | .record record =>
      match record.arrayElement? with
      | some element => trackedElement graph (trackedWalk graph depth) element
      | none => inside id record.name do
        let properties ← lift (fromGraph (graph.recordProperties record))
        return .map (← properties.mapM fun property => do
          return (property.name, ← trackedWalk graph depth property.type))
    | .enum enum => return .choice (← lift enum.someValues)
    | .union union =>
      match ← lift (fromGraph (graph.unionLiterals union)) with
      | some values => return .choice values
      | none => return .custom (String.ofList (← TypeExpression.trackedWalk graph depth id))
    | other => lift (.error (.notMappable other.displayName other.kindName))

end AttributeType

/-! ## Walks that settle -/

def IsUncut {α : Type} (result : Except MappingError α) : Prop :=
  ∀ id, result ≠ .error (.endless id)

section Uncut

variable {α : Type}

@[simp] theorem isUncut_ok (value : α) : IsUncut (.ok value) := by
  simp [IsUncut]

@[simp] theorem isUncut_error_iff {error : MappingError} :
    IsUncut (.error error : Except MappingError α) ↔ ∀ id, error ≠ .endless id := by
  simp [IsUncut]

theorem isUncut_fromGraph (result : Except GraphError α) : IsUncut (fromGraph result) := by
  cases result <;> simp [fromGraph]

theorem isUncut_scalarKind (graph : Graph) (id : TypeId) : IsUncut (graph.scalarKind id) := by
  unfold Graph.scalarKind
  cases graph.scalarRoot id with
  | error error => simp [fromGraph]
  | ok root =>
      simp only [fromGraph, ok_bind, ScalarKind.ofRoot]
      cases Intrinsic.ofName? root.name with
      | none => simp
      | some intrinsic => simp only; split_ifs <;> simp

theorem isUncut_someValues (enum : EnumType) : IsUncut enum.someValues := by
  unfold EnumType.someValues
  split_ifs <;> simp

theorem isUncut_openRecord (opened : List TypeId) (id : TypeId) (name : String) :
    IsUncut (openRecord opened id name) := by
  unfold openRecord
  split_ifs <;> simp

theorem IsUncut.map {β : Type} {result : Except MappingError α} (uncut : IsUncut result)
    (transform : α → β) : IsUncut (result.map transform) := by
  cases result with
  | error error => simpa [Except.map] using uncut
  | ok value => simp [Except.map]

end Uncut

/-- With every depth from the limit on the walk ends alike, and as the plain walk does. It has
nested its calls no deeper than the limit, and if it succeeded the stack is what it was before. -/
def Settles {α : Type} (limit : Nat) (walk : Nat → Tracked α)
    (plain : Nat → Except MappingError α) (track : Track) : Prop :=
  ∃ result after, IsUncut result ∧
    (∀ depth, limit ≤ depth →
      (walk depth).runFrom track = (result, after) ∧ plain depth = result) ∧
    after.deepest ≤ max track.deepest (track.level + limit) ∧
    (Succeeds result → after.opened = track.opened ∧ after.level = track.level)

section Settles

variable {α β : Type} {limit : Nat} {walk : Nat → Tracked α} {plain : Nat → Except MappingError α}
  {track : Track}

theorem settles_lift {result : Except MappingError α} (uncut : IsUncut result) :
    Settles limit (fun _ => lift result) (fun _ => result) track :=
  ⟨result, track, uncut, fun _ _ => ⟨rfl, rfl⟩, le_max_left _ _, fun _ => ⟨rfl, rfl⟩⟩

theorem settles_pure (value : α) : Settles limit (fun _ => pure value) (fun _ => .ok value) track :=
  settles_lift (isUncut_ok value)

theorem Settles.bind {next : Nat → α → Tracked β} {plainNext : Nat → α → Except MappingError β}
    (first : Settles limit walk plain track)
    (each : ∀ value after, after.opened = track.opened → after.level = track.level →
      Settles limit (fun depth => next depth value) (fun depth => plainNext depth value) after) :
    Settles limit (fun depth => walk depth >>= next depth)
      (fun depth => plain depth >>= plainNext depth) track := by
  rcases first with ⟨result, middle, uncut, same, deepest_le, restores⟩
  cases result with
  | error error =>
      refine ⟨.error error, middle, by simpa using uncut, fun depth enough => ⟨?_, ?_⟩, deepest_le,
        ?_⟩
      · exact runFrom_bind_of_error (same depth enough).1 _
      · simp only [(same depth enough).2, error_bind]
      · exact fun succeeds => absurd succeeds (not_succeeds_error _)
  | ok value =>
      rcases restores (succeeds_ok value) with ⟨sameOpened, sameLevel⟩
      rcases each value middle sameOpened sameLevel with
        ⟨ended, after, uncutToo, sameToo, deeper_le, restoresToo⟩
      refine ⟨ended, after, uncutToo, fun depth enough => ⟨?_, ?_⟩, ?_, fun succeeds => ?_⟩
      · rw [runFrom_bind_of_ok (same depth enough).1]
        exact (sameToo depth enough).1
      · simp only [(same depth enough).2, ok_bind]
        exact (sameToo depth enough).2
      · rw [sameLevel] at deeper_le
        exact deeper_le.trans (max_le deepest_le (le_max_right _ _))
      · rcases restoresToo succeeds with ⟨openedAfter, levelAfter⟩
        exact ⟨openedAfter.trans sameOpened, levelAfter.trans sameLevel⟩

theorem Settles.bind_pure (settles : Settles limit walk plain track) (transform : α → β) :
    Settles limit (fun depth => walk depth >>= fun value => pure (transform value))
      (fun depth => plain depth >>= fun value => pure (transform value)) track :=
  settles.bind fun value _ _ _ => settles_pure (transform value)

theorem settles_lift_bind {result : Except MappingError α} {next : Nat → α → Tracked β}
    {plainNext : Nat → α → Except MappingError β} (uncut : IsUncut result)
    (each : ∀ value, result = .ok value →
      Settles limit (fun depth => next depth value) (fun depth => plainNext depth value) track) :
    Settles limit (fun depth => lift result >>= next depth)
      (fun depth => result >>= plainNext depth) track := by
  cases result with
  | error error => exact settles_lift (by simpa using uncut)
  | ok value => exact each value rfl

theorem settles_mapM {γ : Type} {items : List γ} {walk : Nat → γ → Tracked α}
    {plain : Nat → γ → Except MappingError α}
    (each : ∀ item ∈ items, ∀ after : Track, after.opened = track.opened →
      after.level = track.level →
      Settles limit (fun depth => walk depth item) (fun depth => plain depth item) after) :
    Settles limit (fun depth => items.mapM (walk depth)) (fun depth => items.mapM (plain depth))
      track := by
  induction items generalizing track with
  | nil => exact settles_pure []
  | cons item rest induction =>
      simp only [List.mapM_cons]
      refine (each item List.mem_cons_self track rfl rfl).bind fun value middle opened level => ?_
      refine Settles.bind_pure (induction fun later member after openedToo levelToo => ?_) _
      exact each later (List.mem_cons_of_mem _ member) after (openedToo.trans opened)
        (levelToo.trans level)

/-- One more call needs one more step. -/
theorem Settles.call {body : Nat → Tracked α} {plainBody : Nat → Except MappingError α}
    (isCall : ∀ depth, walk (depth + 1) = call (body depth))
    (isStep : ∀ depth, plain (depth + 1) = plainBody depth)
    (settles : Settles limit body plainBody track.down) : Settles (limit + 1) walk plain track := by
  rcases settles with ⟨result, after, uncut, same, deepest_le, restores⟩
  have bound : after.deepest ≤ max track.deepest (track.level + (limit + 1)) := by
    simp only [Track.down] at deepest_le
    omega
  have atSucc : ∀ depth, limit + 1 ≤ depth →
      ∃ less, limit ≤ less ∧ walk depth = Tracked.call (body less) ∧
        plain depth = plainBody less := by
    intro depth enough
    cases depth with
    | zero => omega
    | succ less => exact ⟨less, by omega, isCall less, isStep less⟩
  cases result with
  | error error =>
      refine ⟨.error error, after, uncut, fun depth enough => ?_, bound, ?_⟩
      · rcases atSucc depth enough with ⟨less, enoughToo, ofWalk, ofPlain⟩
        rw [ofWalk, ofPlain]
        exact ⟨runFrom_call_of_error (same less enoughToo).1, (same less enoughToo).2⟩
      · exact fun succeeds => absurd succeeds (not_succeeds_error _)
  | ok value =>
      rcases restores (succeeds_ok value) with ⟨sameOpened, sameLevel⟩
      refine ⟨.ok value, after.up, uncut, fun depth enough => ?_, bound, fun _ => ?_⟩
      · rcases atSucc depth enough with ⟨less, enoughToo, ofWalk, ofPlain⟩
        rw [ofWalk, ofPlain]
        exact ⟨runFrom_call_of_ok (same less enoughToo).1, (same less enoughToo).2⟩
      · simp [Track.up, Track.down, sameOpened, sameLevel]

theorem settles_of_refused {id : TypeId} {name : String} {error : MappingError}
    (refused : openRecord track.opened id name = .error error) :
    Settles limit (fun depth => inside id name (walk depth)) (fun _ => .error error) track := by
  have uncut := isUncut_openRecord track.opened id name
  rw [refused] at uncut
  exact ⟨.error error, track, by simpa using uncut,
    fun _ _ => ⟨runFrom_inside_of_refused refused, rfl⟩, le_max_left _ _,
    fun succeeds => absurd succeeds (not_succeeds_error _)⟩

theorem openRecord_eq_cons {opened below : List TypeId} {id : TypeId} {name : String}
    (opens : openRecord opened id name = .ok below) : below = id :: opened := by
  unfold openRecord at opens
  split_ifs at opens
  exact (Except.ok.inj opens).symm

/-- The record that was put on the stack is taken from it again. -/
theorem Settles.inside {id : TypeId} {name : String} {below : List TypeId}
    (opens : openRecord track.opened id name = .ok below)
    (settles : Settles limit walk plain { track with opened := below }) :
    Settles limit (fun depth => inside id name (walk depth)) plain track := by
  rcases settles with ⟨result, after, uncut, same, deepest_le, restores⟩
  cases result with
  | error error =>
      refine ⟨.error error, after, uncut, fun depth enough => ⟨?_, (same depth enough).2⟩,
        deepest_le, fun succeeds => absurd succeeds (not_succeeds_error _)⟩
      rw [runFrom_inside opens]
      exact runFrom_bind_of_error (same depth enough).1 _
  | ok value =>
      rcases restores (succeeds_ok value) with ⟨sameOpened, sameLevel⟩
      refine ⟨.ok value, { after with opened := after.opened.tail }, uncut,
        fun depth enough => ⟨?_, (same depth enough).2⟩, deepest_le, fun _ => ⟨?_, sameLevel⟩⟩
      · rw [runFrom_inside opens, runFrom_bind_of_ok (same depth enough).1]
        rfl
      · simp [sameOpened, openRecord_eq_cons opens]

end Settles

/-! ## Graphs without endless types -/

namespace Graph

variable {graph : Graph} {id child : TypeId} {opened : List TypeId}

/-- Arrays, unions and tuples, taken alone, contain each other without a cycle. -/
def IsAcyclic (graph : Graph) : Prop := ∀ id, ¬Relation.TransGen graph.Unwraps id id

theorem IsAcyclic.room_lt (acyclic : graph.IsAcyclic) (fits : graph.Fits opened [id])
    (expands : graph.Expands id child) :
    graph.room (graph.openedBelow opened id) child < graph.room opened id :=
  expands.room_lt fits fun notPlain back =>
    acyclic id (Relation.TransGen.head' ⟨notPlain, expands⟩ back)

theorem IsAcyclic.room_lt_of_notPlain (acyclic : graph.IsAcyclic)
    (notPlain : graph.isPlainRecord id = false) (shallow : opened.length ≤ maxChainDepth)
    (expands : graph.Expands id child) : graph.room opened child < graph.room opened id := by
  have lower := acyclic.room_lt ((fits_singleton_of_notPlain notPlain).mpr shallow) expands
  rwa [openedBelow, notPlain] at lower

theorem get?_of_fromGraph_get {node : TypeNode} (isNode : fromGraph (graph.get id) = .ok node) :
    graph.get? id = some node :=
  get_eq_ok_iff.mp (fromGraph_eq_ok_iff.mp isNode)

end Graph

section Records

variable {α β γ : Type} {graph : Graph} {limit : Nat} {track : Track} {id : TypeId}

/-- A record settles if its properties do with the record on top of the stack. There is less room
for them. -/
theorem settles_plainRecord {record : RecordType} {walk : Nat → TypeId → Tracked α}
    {plain : Nat → List TypeId → TypeId → Except MappingError α} {ofProperty : Property → α → β}
    {ofParts : List β → γ} (acyclic : graph.IsAcyclic)
    (shallow : track.opened.length ≤ Graph.maxChainDepth)
    (found : graph.get? id = some (.record record)) (shape : record.arrayElement? = none)
    (each : ∀ child (after : Track), after.opened.length ≤ Graph.maxChainDepth →
      graph.room after.opened child < graph.room track.opened id →
      Settles limit (fun depth => walk depth child) (fun depth => plain depth after.opened child)
        after) :
    Settles limit
      (fun depth => inside id record.name do
        let properties ← lift (fromGraph (graph.recordProperties record))
        let parts ← properties.mapM fun property => do
          return ofProperty property (← walk depth property.type)
        return ofParts parts)
      (fun depth => do
        let opened ← openRecord track.opened id record.name
        let properties ← fromGraph (graph.recordProperties record)
        let parts ← properties.mapM fun property => do
          return ofProperty property (← plain depth opened property.type)
        return ofParts parts) track := by
  have plainRecord : graph.isPlainRecord id = true := by
    simp [Graph.isPlainRecord, found, shape]
  cases opens : openRecord track.opened id record.name with
  | error error => exact settles_of_refused opens
  | ok below =>
      rcases (Graph.openRecord_eq_ok_iff plainRecord shallow).mp opens with ⟨fits, isBelow⟩
      simp only [ok_bind]
      apply Settles.inside opens
      apply settles_lift_bind (isUncut_fromGraph _)
      intro properties ofRecord
      refine Settles.bind_pure (settles_mapM fun property member after opened _ => ?_) ofParts
      refine Settles.bind_pure ?_ (ofProperty property)
      have expands : graph.Expands id property.type := by
        simpa [Graph.Expands, Graph.children, found, shape, fromGraph_eq_ok_iff.mp ofRecord] using
          ⟨property, member, rfl⟩
      have lower := acyclic.room_lt fits expands
      have shallowBelow := TypeExpression.shallow_openedBelow fits
      obtain rfl : after.opened = below := opened
      rw [← isBelow] at lower shallowBelow
      exact each property.type after shallowBelow lower

end Records

namespace TypeExpression

variable {graph : Graph} {limit : Nat} {track : Track} {id : TypeId}

theorem settles_trackedWalk (acyclic : graph.IsAcyclic)
    (shallow : track.opened.length ≤ Graph.maxChainDepth)
    (enough : graph.room track.opened id < limit) :
    Settles limit (fun depth => trackedWalk graph depth id)
      (fun depth => walk graph depth track.opened id) track := by
  -- The room for the type goes down from call to call, and the limit with it.
  induction limit generalizing track id with
  | zero => omega
  | succ limit induction =>
      have ofChild (notPlain : graph.isPlainRecord id = false) (child : TypeId)
          (below : graph.Expands id child) (after : Track) (opened : after.opened = track.opened) :
          Settles limit (fun depth => trackedWalk graph depth child)
            (fun depth => walk graph depth track.opened child) after := by
        have lower := acyclic.room_lt_of_notPlain notPlain shallow below
        rw [← opened] at shallow enough lower ⊢
        exact induction shallow (by omega)
      have ofParts (notPlain : graph.isPlainRecord id = false) (parts : List TypeId)
          (below : ∀ part ∈ parts, graph.Expands id part) :
          Settles limit (fun depth => parts.mapM (trackedWalk graph depth))
            (fun depth => parts.mapM (walk graph depth track.opened)) track.down :=
        settles_mapM fun part member after opened _ =>
          ofChild notPlain part (below part member) after opened
      refine Settles.call (fun depth => rfl) (fun depth => rfl) ?_
      refine settles_lift_bind (isUncut_fromGraph _) fun node isNode => ?_
      have found := Graph.get?_of_fromGraph_get isNode
      cases node with
      | scalar scalar => exact (settles_lift (isUncut_scalarKind graph id)).bind_pure _
      | array element =>
          exact (ofChild (by simp [Graph.isPlainRecord, found]) element
            (by simp [Graph.Expands, Graph.children, found]) track.down rfl).bind_pure _
      | record record =>
          cases shape : record.arrayElement? with
          | some element =>
              simp only [shape]
              exact (ofChild (by simp [Graph.isPlainRecord, found, shape]) element
                (by simp [Graph.Expands, Graph.children, found, shape]) track.down rfl).bind_pure _
          | none =>
              simp only [shape]
              refine settles_plainRecord acyclic shallow found shape ?_
              intro child after shallowBelow lower
              exact induction shallowBelow (lower.trans_le (Nat.le_of_lt_succ enough))
      | enum enum => exact (settles_lift (isUncut_someValues enum)).bind_pure _
      | union union =>
          by_cases empty : union.variants.isEmpty = true
          · simp only [empty, if_true]
            exact settles_lift (by simp)
          · simp only [empty]
            exact (ofParts (by simp [Graph.isPlainRecord, found]) union.variants
              (by simp [Graph.Expands, Graph.children, found])).bind_pure _
      | tuple items =>
          exact (ofParts (by simp [Graph.isPlainRecord, found]) items
            (by simp [Graph.Expands, Graph.children, found])).bind_pure _
      | void => exact settles_lift (by simp)
      | never => exact settles_lift (by simp)
      | _ => exact settles_pure _

end TypeExpression

namespace AttributeType

variable {graph : Graph} {limit : Nat} {track : Track} {id : TypeId}

theorem settles_trackedElement {walk : Nat → TypeId → Tracked AttributeType}
    {plain : Nat → TypeId → Except MappingError AttributeType} {element : TypeId}
    (settles : Settles limit (fun depth => walk depth element) (fun depth => plain depth element)
      track) :
    Settles limit (fun depth => trackedElement graph (walk depth) element)
      (fun depth => ofElement graph (plain depth) element) track := by
  refine settles_lift_bind (isUncut_fromGraph _) fun node isNode => ?_
  cases node with
  | enum enum => exact (settles_lift (isUncut_someValues enum)).bind_pure _
  | _ => exact settles.bind_pure _

theorem settles_trackedWalk (acyclic : graph.IsAcyclic)
    (shallow : track.opened.length ≤ Graph.maxChainDepth)
    (enough : graph.room track.opened id + 1 < limit) :
    Settles limit (fun depth => trackedWalk graph depth id)
      (fun depth => walk graph depth track.opened id) track := by
  induction limit generalizing track id with
  | zero => omega
  | succ limit induction =>
      have enoughBelow : graph.room track.down.opened id < limit := Nat.lt_of_succ_lt_succ enough
      have ofArray (element : TypeId) (hasElement : graph.element? id = some element) :
          Settles limit (fun depth => trackedElement graph (trackedWalk graph depth) element)
            (fun depth => ofElement graph (walk graph depth track.opened) element) track.down := by
        rcases Graph.shape_of_element? .attribute hasElement with ⟨below, notPlain, _⟩
        have expands : graph.Expands id element := by
          simp [Graph.Expands, below]
        have lower : graph.room track.down.opened element < graph.room track.down.opened id :=
          acyclic.room_lt_of_notPlain notPlain shallow expands
        have ofElement := @induction track.down element shallow (by omega)
        exact settles_trackedElement ofElement
      refine Settles.call (fun depth => rfl) (fun depth => rfl) ?_
      refine settles_lift_bind (isUncut_fromGraph _) fun node isNode => ?_
      have found := Graph.get?_of_fromGraph_get isNode
      cases node with
      | scalar scalar => exact (settles_lift (isUncut_scalarKind graph id)).bind_pure _
      | array element => exact ofArray element (by simp [Graph.element?, found])
      | record record =>
          cases shape : record.arrayElement? with
          | some element =>
              simp only [shape]
              exact ofArray element (by simp [Graph.element?, found, shape])
          | none =>
              simp only [shape]
              refine settles_plainRecord acyclic shallow found shape ?_
              intro child after shallowBelow lower
              exact induction shallowBelow (by omega)
      | enum enum => exact (settles_lift (isUncut_someValues enum)).bind_pure _
      | union union =>
          refine settles_lift_bind (isUncut_fromGraph _) fun literals _ => ?_
          cases literals with
          | some values => exact settles_pure _
          | none =>
              -- The expression of the union is one more call, for the same type.
              have written := @TypeExpression.settles_trackedWalk graph limit track.down id acyclic
                shallow enoughBelow
              exact written.bind_pure _
      | _ => exact settles_lift (by simp)

end AttributeType

/-! ## Walks that end -/

/-- However deep it might go, the walk goes no deeper than the limit. It gives the result, and with
a success it leaves the stack as it was. -/
structure EndsWithin {α : Type} (limit : Nat) (walk : Nat → Tracked α) (opened : List TypeId)
    (result : Except MappingError α) : Prop where
  uncut : IsUncut result
  result_eq : ∀ depth, limit ≤ depth → ((walk depth).runFrom (.start opened)).1 = result
  deepest_le : ∀ depth, limit ≤ depth → ((walk depth).runFrom (.start opened)).2.deepest ≤ limit
  opened_eq : ∀ depth, limit ≤ depth → Succeeds result →
    ((walk depth).runFrom (.start opened)).2.opened = opened

theorem Settles.endsWithin {α : Type} {limit : Nat} {walk : Nat → Tracked α}
    {plain : Nat → Except MappingError α} {opened : List TypeId}
    (settles : Settles limit walk plain (.start opened)) :
    EndsWithin limit walk opened (plain limit) := by
  rcases settles with ⟨result, after, uncut, same, deepest_le, restores⟩
  rw [(same limit le_rfl).2]
  refine ⟨uncut, fun depth enough => ?_, fun depth enough => ?_, fun depth enough succeeds => ?_⟩
  · rw [(same depth enough).1]
  · rw [(same depth enough).1]
    simpa [Track.start] using deepest_le
  · rw [(same depth enough).1]
    exact (restores succeeds).1

namespace Graph

theorem room_add_one_lt_walkDepth (graph : Graph) (opened : List TypeId) (id : TypeId) :
    graph.room opened id + 1 < graph.walkDepth := by
  have bounded : graph.rank id ≤ graph.size := rank_le_size
  have fewer : (maxChainDepth - opened.length) * graph.size ≤ maxChainDepth * graph.size :=
    Nat.mul_le_mul_right _ (Nat.sub_le _ _)
  simp only [room, walkDepth, maxChainDepth] at fewer ⊢
  omega

/-- In a graph whose arrays, unions and tuples contain each other without a cycle, however its
records refer to each other and derive from each other, every type gets an answer. The calls of a
walk are nested no deeper than 65 times the number of nodes and one, and a walk that succeeds
leaves the open records as they were. -/
theorem walks_end_of_isAcyclic {graph : Graph} (acyclic : graph.IsAcyclic) (id : TypeId) :
    IsUncut (graph.attributeType id) ∧ IsUncut (graph.typeExpression id) ∧
    ∀ opened : List TypeId, opened.length ≤ maxChainDepth →
      EndsWithin (65 * (graph.size + 1)) (fun depth => AttributeType.trackedWalk graph depth id)
        opened (AttributeType.walk graph graph.walkDepth opened id) ∧
      EndsWithin (65 * (graph.size + 1)) (fun depth => TypeExpression.trackedWalk graph depth id)
        opened (TypeExpression.walk graph graph.walkDepth opened id) := by
  have ofAttribute (opened : List TypeId) (shallow : opened.length ≤ maxChainDepth) :=
    (@AttributeType.settles_trackedWalk graph graph.walkDepth (.start opened) id acyclic shallow
      (graph.room_add_one_lt_walkDepth opened id)).endsWithin
  have ofExpression (opened : List TypeId) (shallow : opened.length ≤ maxChainDepth) :=
    (@TypeExpression.settles_trackedWalk graph graph.walkDepth (.start opened) id acyclic shallow
      (Nat.lt_of_succ_lt (graph.room_add_one_lt_walkDepth opened id))).endsWithin
  refine ⟨(ofAttribute [] (Nat.zero_le _)).uncut, (ofExpression [] (Nat.zero_le _)).uncut.map _,
    fun opened shallow => ⟨ofAttribute opened shallow, ofExpression opened shallow⟩⟩

theorem IsGuarded.isAcyclic {graph : Graph} (guarded : graph.IsGuarded) : graph.IsAcyclic := by
  intro id cycle
  rcases Relation.TransGen.head'_iff.mp cycle with ⟨child, unwraps, back⟩
  exact guarded.not_unwrapped unwraps back

def entangledGraph : Graph :=
  { types := #[.scalar { name := "string" }, .array ⟨3⟩, .union { variants := [⟨0⟩, ⟨1⟩] },
      .record { name := "Folder", properties := [{ name := "parts", type := ⟨2⟩ },
        { name := "owner", type := ⟨4⟩ }] },
      .record { name := "Owner", base := some ⟨4⟩,
                properties := [{ name := "home", type := ⟨3⟩ }] }] }

theorem walks_end_entangledGraph :
    entangledGraph.IsAcyclic ∧
    entangledGraph.attributeType ⟨3⟩ = .error (.selfReference "Folder") ∧
    EndsWithin 390 (fun depth => AttributeType.trackedWalk entangledGraph depth ⟨3⟩) []
      (entangledGraph.attributeType ⟨3⟩) := by
  have acyclic : entangledGraph.IsAcyclic :=
    (isGuarded_of_decreasing (fun id => if id = ⟨2⟩ then 2 else if id = ⟨1⟩ then 1 else 0)
      (by decide)).isAcyclic
  exact ⟨acyclic, rfl, ((walks_end_of_isAcyclic acyclic ⟨3⟩).2.2 [] (by decide)).1⟩

end Graph

end EntitySchema
