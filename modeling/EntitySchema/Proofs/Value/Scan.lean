import Mathlib
import EntitySchema.Proofs.Except
import EntitySchema.Value.Reader
/-!
Scanning a text by its bytes.

A scan holds the text as it is and a position in it, in bytes, and looks at the text only through
slices. A slice from a position that is out of range or inside of a character does not exist, and a
loop might go on for ever; in both cases there is no outcome. The trail of a run has every position
that the scan stood at, and where each pass of a loop that was followed by another began and ended.
-/

namespace EntitySchema

@[simp] theorem utf8Length_nil : utf8Length [] = 0 := rfl

@[simp] theorem utf8Length_cons (first : Char) (rest : List Char) :
    utf8Length (first :: rest) = first.utf8Size + utf8Length rest := rfl

@[simp] theorem utf8Length_append (before after : List Char) :
    utf8Length (before ++ after) = utf8Length before + utf8Length after := by
  induction before with
  | nil => simp
  | cons first rest induction => simp [induction, Nat.add_assoc]

theorem length_le_utf8Length (content : List Char) : content.length ≤ utf8Length content := by
  induction content with
  | nil => simp
  | cons first rest induction =>
      have positive := first.utf8Size_pos
      rw [List.length_cons, utf8Length_cons]
      omega

theorem utf8ByteSize_ofList (content : List Char) :
    (String.ofList content).utf8ByteSize = utf8Length content := by
  rw [String.utf8ByteSize_ofList]
  induction content with
  | nil => rfl
  | cons first rest induction =>
      rw [String.utf8Len, induction, utf8Length_cons, Nat.add_comm]

theorem utf8ByteSize_eq_utf8Length (text : String) :
    text.utf8ByteSize = utf8Length text.toList := by
  rw [← utf8ByteSize_ofList, String.ofList_toList]

namespace Value

namespace Cursor

/-! ## Slices -/

/-- Cuts a text behind the given number of bytes, if they end between two characters. -/
def cut? : Nat → List Char → Option (List Char × List Char)
  | 0, content => some ([], content)
  | _ + 1, [] => none
  | bytes + 1, first :: rest =>
    if first.utf8Size ≤ bytes + 1 then
      (cut? (bytes + 1 - first.utf8Size) rest).map fun parts => (first :: parts.1, parts.2)
    else none

def slice? (content : List Char) (start stop : Nat) : Option (List Char) :=
  if start ≤ stop then do
    let behind ← cut? start content
    let inside ← cut? (stop - start) behind.2
    return inside.1
  else none

example : slice? "aé".toList 1 3 = some ['é'] := by decide
example : slice? "aé".toList 1 2 = none := by decide

theorem cut?_eq_some_iff {bytes : Nat} {input before after : List Char} :
    cut? bytes input = some (before, after) ↔
      input = before ++ after ∧ utf8Length before = bytes := by
  fun_induction cut? bytes input generalizing before with
  | case1 input =>
      constructor
      · rintro ⟨⟩
        exact ⟨rfl, rfl⟩
      · rintro ⟨rfl, none⟩
        have empty : before = [] := by
          have := length_le_utf8Length before
          exact List.length_eq_zero_iff.mp (by omega)
        rw [empty, List.nil_append]
  | case2 bytes =>
      constructor
      · nofun
      · rintro ⟨split, size⟩
        rw [(List.append_eq_nil_iff.mp split.symm).1] at size
        cases size
  | case3 bytes first rest fits induction =>
      constructor
      · intro found
        rcases Option.map_eq_some_iff.mp found with ⟨⟨before', after'⟩, cut, equal⟩
        cases equal
        rcases induction.mp cut with ⟨split, size⟩
        refine ⟨congrArg (first :: ·) split, ?_⟩
        rw [utf8Length_cons, size]
        omega
      · rintro ⟨split, size⟩
        cases before with
        | nil => cases size
        | cons first' before =>
            rw [List.cons_append] at split
            cases split
            rw [utf8Length_cons] at size
            have below : utf8Length before = bytes + 1 - first.utf8Size := by omega
            rw [induction.mpr ⟨rfl, below⟩, Option.map_some]
  | case4 bytes first rest tooLong =>
      constructor
      · nofun
      · rintro ⟨split, size⟩
        cases before with
        | nil => cases size
        | cons first' before =>
            rw [List.cons_append] at split
            cases split
            rw [utf8Length_cons] at size
            omega

theorem isSome_cut? (bytes : Nat) (input : List Char) :
    (cut? bytes input).isSome = hasBoundaryAt bytes input := by
  fun_induction cut? bytes input with
  | case1 => simp [hasBoundaryAt]
  | case2 => simp [hasBoundaryAt]
  | case3 bytes first rest fits induction =>
      simp [hasBoundaryAt, fits, induction]
  | case4 bytes first rest tooLong =>
      simp [hasBoundaryAt, tooLong]

theorem cut?_append (before after : List Char) :
    cut? (utf8Length before) (before ++ after) = some (before, after) :=
  cut?_eq_some_iff.mpr ⟨rfl, rfl⟩

theorem slice?_append (before behind : List Char) (bytes : Nat) :
    slice? (before ++ behind) (utf8Length before) (utf8Length before + bytes) =
      (cut? bytes behind).map Prod.fst := by
  rw [slice?, if_pos (Nat.le_add_right _ _), cut?_append, Nat.add_sub_cancel_left]
  exact Option.map_eq_bind.symm

/-! ## Runs -/

structure Trail where
  position : Nat
  earlier : List Nat
  passes : List (Nat × Nat)

namespace Trail

def start : Trail := { position := 0, earlier := [], passes := [] }

def startAt (position : Nat) : Trail := { start with position }

def positions (trail : Trail) : List Nat := trail.position :: trail.earlier

def moveTo (trail : Trail) (position : Nat) : Trail :=
  { trail with position, earlier := trail.positions }

end Trail

/-- A run without an outcome is one that slices where it cannot or that does not end. -/
abbrev Scan (α : Type) := ExceptT ReadFault (StateT Trail Option) α

variable {α β σ : Type} {content unread middle rest : List Char}

def Scan.runFrom (scan : Scan α) (trail : Trail) : Option (Except ReadFault α × Trail) :=
  scan.run.run trail

def demand (found : Option α) : Scan α := ExceptT.mk (StateT.lift (found.map .ok))

def position : Scan Nat := return (← get).position

def moveTo (position : Nat) : Scan Unit := modify (Trail.moveTo · position)

def repeated (pass : σ → Scan (σ ⊕ α)) : Nat → σ → Scan α
  | 0, _ => demand none
  | passes + 1, state => do
    let start ← position
    match ← pass state with
    | .inl next =>
      modify fun trail => { trail with passes := (start, trail.position) :: trail.passes }
      repeated pass passes next
    | .inr result => return result

def peek (content : List Char) : Scan (Option Char) := do
  let behind ← demand (cut? (← position) content)
  return behind.2.head?

def bump (content : List Char) : Scan (Option Char) := do
  match ← peek content with
  | none => return none
  | some character =>
    moveTo ((← position) + character.utf8Size)
    return some character

def spanned (content : List Char) (scan : Scan α) : Scan (α × List Char) := do
  let start ← position
  let value ← scan
  let inside ← demand (slice? content start (← position))
  return (value, inside)

/-! ## Trails along the boundaries -/

def IsBoundary (content : List Char) (position : Nat) : Prop :=
  ∃ before after, content = before ++ after ∧ utf8Length before = position

/-- The run stays at the given places and does not go back, and each pass of a loop that is followed
by another moves on. -/
structure Trail.KeepsTo (IsPlace : Nat → Prop) (trail : Trail) : Prop where
  places : ∀ position ∈ trail.positions, IsPlace position
  ordered : trail.positions.Pairwise (· ≥ ·)
  consuming : ∀ pass ∈ trail.passes, IsPlace pass.1 ∧ IsPlace pass.2 ∧ pass.1 < pass.2

theorem Trail.KeepsTo.mono {IsPlace IsOther : Nat → Prop} {trail : Trail}
    (keeps : trail.KeepsTo IsPlace) (weaker : ∀ position, IsPlace position → IsOther position) :
    trail.KeepsTo IsOther where
  places := fun position member => weaker position (keeps.places position member)
  ordered := keeps.ordered
  consuming := by
    intro pass member
    rcases keeps.consuming pass member with ⟨begins, ends, moved⟩
    exact ⟨weaker _ begins, weaker _ ends, moved⟩

structure StandsAt (content : List Char) (trail : Trail) (unread : List Char) : Prop where
  keeps : trail.KeepsTo (IsBoundary content)
  split : ∃ before, content = before ++ unread ∧ utf8Length before = trail.position

namespace StandsAt

variable {trail after : Trail}

theorem isBoundary (stands : StandsAt content trail unread) : IsBoundary content trail.position :=
  stands.keeps.places trail.position List.mem_cons_self

theorem startAt (before unread : List Char) :
    StandsAt (before ++ unread) (.startAt (utf8Length before)) unread where
  keeps :=
    { places := by
        intro position member
        rw [List.mem_singleton.mp member]
        exact ⟨before, unread, rfl, rfl⟩
      ordered := List.pairwise_singleton _ _
      consuming := nofun }
  split := ⟨before, rfl, rfl⟩

theorem start (content : List Char) : StandsAt content .start content :=
  startAt [] content

theorem moveTo {passed : List Char} (stands : StandsAt content trail (passed ++ rest)) :
    StandsAt content (trail.moveTo (trail.position + utf8Length passed)) rest := by
  rcases stands.split with ⟨before, split, size⟩
  have reached : utf8Length (before ++ passed) = trail.position + utf8Length passed := by
    rw [utf8Length_append, size]
  have splitThere : content = (before ++ passed) ++ rest := by
    rw [split, List.append_assoc]
  refine ⟨⟨?_, ?_, stands.keeps.consuming⟩, before ++ passed, splitThere, reached⟩
  · intro position member
    rcases List.mem_cons.mp member with rfl | earlier
    · exact ⟨before ++ passed, rest, splitThere, reached⟩
    · exact stands.keeps.places position earlier
  · refine List.pairwise_cons.mpr ⟨?_, stands.keeps.ordered⟩
    intro position member
    have noLater : position ≤ trail.position := by
      rcases List.mem_cons.mp member with rfl | earlier
      · exact Nat.le_refl _
      · exact (List.pairwise_cons.mp stands.keeps.ordered).1 position earlier
    exact noLater.trans (Nat.le_add_right _ _)

theorem position_eq {passed : List Char} (stands : StandsAt content trail (passed ++ rest))
    (standsAfter : StandsAt content after rest) :
    after.position = trail.position + utf8Length passed := by
  rcases stands.split with ⟨before, split, size⟩
  rcases standsAfter.split with ⟨before', split', size'⟩
  have same : before' = before ++ passed := by
    have joined : before' ++ rest = (before ++ passed) ++ rest := by
      rw [List.append_assoc, ← split, ← split']
    exact List.append_cancel_right joined
  rw [← size', same, utf8Length_append, size]

end StandsAt

/-! ## What a scan performs -/

/-- The scan ends with the given outcome and in front of the given rest, from wherever it finds
the text unread. -/
structure Performs (content : List Char) (scan : Scan α) (unread : List Char)
    (outcome : Except ReadFault α) (rest : List Char) : Prop where
  suffix : rest <:+ unread
  runs : ∀ trail, StandsAt content trail unread →
    ∃ after, scan.runFrom trail = some (outcome, after) ∧ StandsAt content after rest

/-- A scan that passes over a part of the text ends where that part ends. -/
theorem Performs.exists_trail {scan : Scan α} {outcome : Except ReadFault α}
    {before passed : List Char}
    (performs : Performs (before ++ (passed ++ rest)) scan (passed ++ rest) outcome rest) :
    ∃ trail, scan.runFrom (.startAt (utf8Length before)) = some (outcome, trail) ∧
      trail.position = utf8Length (before ++ passed) := by
  have stands := StandsAt.startAt before (passed ++ rest)
  rcases performs.runs _ stands with ⟨trail, ran, standsAfter⟩
  refine ⟨trail, ran, ?_⟩
  rw [utf8Length_append]
  exact stands.position_eq standsAfter

namespace Scan

variable {trail after : Trail}

theorem runFrom_bind_of_ok {scan : Scan α} {value : α}
    (ended : scan.runFrom trail = some (.ok value, after)) (next : α → Scan β) :
    (scan >>= next).runFrom trail = (next value).runFrom after :=
  run_bind_of_ok ended next

theorem runFrom_bind_of_error {scan : Scan α} {fault : ReadFault}
    (ended : scan.runFrom trail = some (.error fault, after)) (next : α → Scan β) :
    (scan >>= next).runFrom trail = some (.error fault, after) :=
  run_bind_of_error ended next

end Scan

open Scan

section Rules

variable {scan : Scan α} {next : α → Scan β} {value : α} {fault : ReadFault}
  {outcome : Except ReadFault β}

theorem performs_pure (value : α) (unread : List Char) :
    Performs content (pure value) unread (.ok value) unread :=
  ⟨List.suffix_refl unread, fun trail stands => ⟨trail, rfl, stands⟩⟩

theorem performs_throw (fault : ReadFault) (unread : List Char) :
    Performs content (throw fault : Scan α) unread (.error fault) unread :=
  ⟨List.suffix_refl unread, fun trail stands => ⟨trail, rfl, stands⟩⟩

theorem Performs.bind (first : Performs content scan unread (.ok value) middle)
    (second : Performs content (next value) middle outcome rest) :
    Performs content (scan >>= next) unread outcome rest := by
  refine ⟨second.suffix.trans first.suffix, fun trail stands => ?_⟩
  rcases first.runs trail stands with ⟨between, ended, standsBetween⟩
  rcases second.runs between standsBetween with ⟨after, endedToo, standsAfter⟩
  exact ⟨after, (runFrom_bind_of_ok ended next).trans endedToo, standsAfter⟩

theorem Performs.bind_error (first : Performs content scan unread (.error fault) rest) :
    Performs content (scan >>= next) unread (.error fault) rest := by
  refine ⟨first.suffix, fun trail stands => ?_⟩
  rcases first.runs trail stands with ⟨after, ended, standsAfter⟩
  exact ⟨after, runFrom_bind_of_error ended next, standsAfter⟩

theorem performs_peek (unread : List Char) :
    Performs content (peek content) unread (.ok unread.head?) unread := by
  refine ⟨List.suffix_refl unread, fun trail stands => ⟨trail, ?_, stands⟩⟩
  rcases stands.split with ⟨before, split, size⟩
  have cutHere : cut? trail.position content = some (before, unread) :=
    cut?_eq_some_iff.mpr ⟨split, size⟩
  have looked : (peek content).runFrom trail =
      (demand (cut? trail.position content) >>= fun behind => pure behind.2.head?).runFrom
        trail := rfl
  rw [looked, cutHere]
  rfl

theorem performs_position {next : Nat → Scan β} (suffix : rest <:+ unread)
    (each : ∀ before, content = before ++ unread →
      Performs content (next (utf8Length before)) unread outcome rest) :
    Performs content (position >>= next) unread outcome rest := by
  refine ⟨suffix, fun trail stands => ?_⟩
  rcases stands.split with ⟨before, split, size⟩
  rcases (each before split).runs trail stands with ⟨after, ended, standsAfter⟩
  refine ⟨after, ?_, standsAfter⟩
  rw [← ended, size]
  rfl

theorem performs_moveTo {before : List Char} (passed : List Char)
    (split : content = before ++ (passed ++ rest)) :
    Performs content (moveTo (utf8Length before + utf8Length passed)) (passed ++ rest) (.ok ())
      rest := by
  refine ⟨List.suffix_append passed rest, fun trail stands => ⟨_, rfl, ?_⟩⟩
  rcases stands.split with ⟨before', split', size⟩
  have same : before = before' := List.append_cancel_right (split.symm.trans split')
  rw [same, size]
  exact stands.moveTo

theorem performs_bump_nil : Performs content (bump content) [] (.ok none) [] :=
  (performs_peek []).bind (performs_pure none [])

theorem performs_bump_cons (first : Char) (rest : List Char) :
    Performs content (bump content) (first :: rest) (.ok (some first)) rest := by
  refine (performs_peek (first :: rest)).bind ?_
  refine performs_position (List.suffix_cons first rest) fun before split => ?_
  have moved := performs_moveTo [first] split
  exact moved.bind (performs_pure (some first) rest)

/-! ## Loops -/

variable {pass : σ → Scan (σ ⊕ α)} {state next : σ}

theorem Performs.repeated_again {outcome : Except ReadFault α} {passes : Nat}
    (once : Performs content (pass state) unread (.ok (.inl next)) middle)
    (shorter : middle.length < unread.length)
    (again : Performs content (repeated pass passes next) middle outcome rest) :
    Performs content (repeated pass (passes + 1) state) unread outcome rest := by
  refine ⟨again.suffix.trans once.suffix, fun trail stands => ?_⟩
  rcases once.runs trail stands with ⟨between, ended, standsBetween⟩
  rcases once.suffix with ⟨passed, split⟩
  have moved : trail.position < between.position := by
    have advanced := StandsAt.position_eq (split ▸ stands) standsBetween
    have counted := length_le_utf8Length passed
    rw [← split, List.length_append] at shorter
    omega
  have standsLogged : StandsAt content
      { between with passes := (trail.position, between.position) :: between.passes } middle :=
    { keeps :=
        { standsBetween.keeps with
          consuming := by
            intro logged member
            rcases List.mem_cons.mp member with rfl | earlier
            · exact ⟨stands.isBoundary, standsBetween.isBoundary, moved⟩
            · exact standsBetween.keeps.consuming logged earlier }
      split := standsBetween.split }
  rcases again.runs _ standsLogged with ⟨after, endedToo, standsAfter⟩
  refine ⟨after, ?_, standsAfter⟩
  rw [← endedToo]
  exact runFrom_bind_of_ok ended _

theorem Performs.repeated_leave {passes : Nat}
    (once : Performs content (pass state) unread (.ok (.inr value)) rest) :
    Performs content (repeated pass (passes + 1) state) unread (.ok value) rest := by
  refine ⟨once.suffix, fun trail stands => ?_⟩
  rcases once.runs trail stands with ⟨after, ended, standsAfter⟩
  exact ⟨after, runFrom_bind_of_ok ended _, standsAfter⟩

theorem Performs.repeated_error {passes : Nat}
    (once : Performs content (pass state) unread (.error fault) rest) :
    Performs content (repeated pass (passes + 1) state) unread (.error fault) rest := by
  refine ⟨once.suffix, fun trail stands => ?_⟩
  rcases once.runs trail stands with ⟨after, ended, standsAfter⟩
  exact ⟨after, runFrom_bind_of_error ended _, standsAfter⟩

theorem performs_spanned {token : List Char}
    (inside : Performs content scan (token ++ rest) (.ok value) rest) :
    Performs content (spanned content scan) (token ++ rest) (.ok (value, token)) rest := by
  refine ⟨inside.suffix, fun trail stands => ?_⟩
  rcases inside.runs trail stands with ⟨after, ended, standsAfter⟩
  refine ⟨after, ?_, standsAfter⟩
  rcases stands.split with ⟨before, split, size⟩
  have passed : slice? content trail.position after.position = some token := by
    rw [stands.position_eq standsAfter, ← size, split, slice?_append, cut?_append]
    rfl
  have sliced : (spanned content scan).runFrom trail =
      (demand (slice? content trail.position after.position) >>= fun inside =>
        pure (value, inside)).runFrom after := runFrom_bind_of_ok ended _
  rw [sliced, passed]
  rfl

end Rules

/-! ## Agreement with a reading -/

def outcomeOf : Reading (α × List Char) → Except ReadFault α
  | .ok part => .ok part.1
  | .error failure => .error failure.fault

def leftBy : Reading (α × List Char) → List Char
  | .ok part => part.2
  | .error failure => failure.unread

/-- The scan gives what the reading gives, and ends where the unread text of the reading begins. -/
abbrev Agrees (content : List Char) (scan : Scan α) (unread : List Char)
    (reading : Reading (α × List Char)) : Prop :=
  Performs content scan unread (outcomeOf reading) (leftBy reading)

theorem Agrees.bind {scan : Scan α} {next : α → Scan β} {reading : Reading (α × List Char)}
    {continued : α × List Char → Reading (β × List Char)}
    (first : Agrees content scan unread reading)
    (second : ∀ value rest, reading = .ok (value, rest) → rest <:+ unread →
      Agrees content (next value) rest (continued (value, rest))) :
    Agrees content (scan >>= next) unread (reading >>= continued) := by
  cases reading with
  | error failure => exact first.bind_error
  | ok part => exact Performs.bind first (second part.1 part.2 rfl first.suffix)

def mapPart (transform : α → β) (reading : Reading (α × List Char)) : Reading (β × List Char) :=
  reading.map fun part => (transform part.1, part.2)

theorem Agrees.bind_of_mapPart {transform : σ → α} {scan : Scan α} {next : α → Scan β}
    {reading : Reading (σ × List Char)} {continued : σ × List Char → Reading (β × List Char)}
    (first : Agrees content scan unread (mapPart transform reading))
    (second : ∀ value rest,
      Agrees content (next (transform value)) rest (continued (value, rest))) :
    Agrees content (scan >>= next) unread (reading >>= continued) := by
  cases reading with
  | error failure => exact first.bind_error
  | ok part => exact Performs.bind first (second part.1 part.2)

end Cursor

end Value

end EntitySchema
