import Mathlib
import EntitySchema.Text.Character
/-!
Runs of characters at the front of a text, and where they stop.
-/

namespace EntitySchema

def StopsAt (accepts : Char → Bool) (text : List Char) : Prop :=
  ∀ first ∈ text.head?, accepts first = false

@[simp] theorem stopsAt_nil (accepts : Char → Bool) : StopsAt accepts [] := by
  simp [StopsAt]

@[simp] theorem stopsAt_cons (accepts : Char → Bool) (first : Char) (rest : List Char) :
    StopsAt accepts (first :: rest) ↔ accepts first = false := by
  simp [StopsAt]

theorem takeWhile_append_of_stopsAt {accepts : Char → Bool} {run rest : List Char}
    (accepted : ∀ character ∈ run, accepts character) (stops : StopsAt accepts rest) :
    (run ++ rest).takeWhile accepts = run := by
  rw [List.takeWhile_append_of_pos accepted]
  cases rest with
  | nil => simp
  | cons first rest => simp [(stopsAt_cons accepts first rest).mp stops]

theorem dropWhile_append_of_stopsAt {accepts : Char → Bool} {run rest : List Char}
    (accepted : ∀ character ∈ run, accepts character) (stops : StopsAt accepts rest) :
    (run ++ rest).dropWhile accepts = rest := by
  rw [List.dropWhile_append_of_pos accepted]
  cases rest with
  | nil => simp
  | cons first rest => simp [(stopsAt_cons accepts first rest).mp stops]

/-- Two runs that end at their first stop are the same run, and the same text follows. -/
theorem run_and_rest_of_append_stop {stop : Char} {left right rest other : List Char}
    (leftFree : stop ∉ left) (rightFree : stop ∉ right)
    (equal : left ++ stop :: rest = right ++ stop :: other) : left = right ∧ rest = other := by
  have goesOn {run : List Char} (free : stop ∉ run) :
      ∀ character ∈ run, (character != stop) = true := by
    intro character member
    simp only [bne_iff_ne]
    exact fun same => free (same ▸ member)
  have stops (text : List Char) : StopsAt (fun character => character != stop) (stop :: text) := by
    simp
  have sameRun : left = right := by
    rw [← takeWhile_append_of_stopsAt (goesOn leftFree) (stops rest), equal,
      takeWhile_append_of_stopsAt (goesOn rightFree) (stops other)]
  subst sameRun
  exact ⟨rfl, (List.cons.inj (List.append_cancel_left equal)).2⟩

end EntitySchema
