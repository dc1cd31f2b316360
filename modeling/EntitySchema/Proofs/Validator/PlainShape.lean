import Mathlib
import EntitySchema.Validator
/-!
The regular expressions of plain dates and times, and the texts that they describe.

Which texts an expression describes depends on what counts as a digit. A validator takes the
decimal digits of all scripts for digits, while the source that it generates is read with the ASCII
digits only, so the two part where a text is written with other digits.
-/

namespace EntitySchema

inductive Shape where
  | digits (count : Nat)
  | someDigits
  | character (wanted : Char)
  | sequence (first second : Shape)
  | optional (part : Shape)

namespace Shape

def plainDate : Shape :=
  .sequence (.digits 4) (.sequence (.character '-')
    (.sequence (.digits 2) (.sequence (.character '-') (.digits 2))))

def seconds : Shape :=
  .sequence (.character ':') (.sequence (.digits 2)
    (.optional (.sequence (.character '.') .someDigits)))

def plainTime : Shape :=
  .sequence (.digits 2) (.sequence (.character ':') (.sequence (.digits 2) (.optional seconds)))

/-- The text of the expression. A point would stand for any character if it were not escaped. -/
def source : Shape → String
  | .digits count => "\\d\x7b" ++ Nat.repr count ++ "\x7d"
  | .someDigits => "\\d+"
  | .character wanted => if wanted = '.' then "\\." else String.singleton wanted
  | .sequence first second => first.source ++ second.source
  | .optional part => "(" ++ part.source ++ ")?"

/-- The texts that the expression describes as a whole, if the given characters are the digits. -/
def Matches (isDigit : Char → Bool) : Shape → List Char → Prop
  | .digits count, text => text.length = count ∧ ∀ digit ∈ text, isDigit digit = true
  | .someDigits, text => text ≠ [] ∧ ∀ digit ∈ text, isDigit digit = true
  | .character wanted, text => text = [wanted]
  | .sequence first second, text =>
      ∃ before after, text = before ++ after ∧ first.Matches isDigit before ∧
        second.Matches isDigit after
  | .optional part, text => text = [] ∨ part.Matches isDigit text

def characters : Shape → List Char
  | .digits _ => []
  | .someDigits => []
  | .character wanted => [wanted]
  | .sequence first second => first.characters ++ second.characters
  | .optional part => part.characters

/-! ## Classes of digits -/

/-- With fewer digits, a shape describes those of its texts that only hold such digits. -/
theorem matches_iff_of_imp {narrow wide : Char → Bool}
    (included : ∀ character, narrow character = true → wide character = true) {shape : Shape}
    (separate : ∀ character ∈ shape.characters, wide character = false) (text : List Char) :
    shape.Matches narrow text ↔
      shape.Matches wide text ∧
        ∀ character ∈ text, wide character = true → narrow character = true := by
  have digitsOnly (text : List Char) :
      (∀ digit ∈ text, narrow digit = true) ↔
        (∀ digit ∈ text, wide digit = true) ∧
          ∀ character ∈ text, wide character = true → narrow character = true := by
    constructor
    · intro each
      exact ⟨fun digit member => included digit (each digit member),
        fun digit member _ => each digit member⟩
    · intro both digit member
      exact both.2 digit member (both.1 digit member)
  -- Only digits are read differently; the other characters are digits in neither class.
  induction shape generalizing text with
  | digits count => rw [Matches, Matches, digitsOnly, and_assoc]
  | someDigits => rw [Matches, Matches, digitsOnly, and_assoc]
  | character wanted =>
      rw [Matches, Matches]
      constructor
      · intro equal
        subst equal
        refine ⟨rfl, ?_⟩
        intro character member digit
        rw [separate character member] at digit
        cases digit
      · intro both
        exact both.1
  | sequence first second firstInduction secondInduction =>
      rcases List.forall_mem_append.mp separate with ⟨ofFirst, ofSecond⟩
      simp only [Matches, firstInduction ofFirst, secondInduction ofSecond]
      constructor
      · intro matched
        rcases matched with ⟨before, after, split, ⟨inBefore, narrowBefore⟩, inAfter, narrowAfter⟩
        subst split
        exact ⟨⟨before, after, rfl, inBefore, inAfter⟩,
          List.forall_mem_append.mpr ⟨narrowBefore, narrowAfter⟩⟩
      · intro matched
        rcases matched with ⟨⟨before, after, split, inBefore, inAfter⟩, both⟩
        subst split
        rcases List.forall_mem_append.mp both with ⟨narrowBefore, narrowAfter⟩
        exact ⟨before, after, rfl, ⟨inBefore, narrowBefore⟩, inAfter, narrowAfter⟩
  | optional part induction =>
      simp only [Matches, induction separate]
      constructor
      · intro matched
        rcases matched with empty | ⟨inPart, narrowOnly⟩
        · exact ⟨Or.inl empty, by simp [empty]⟩
        · exact ⟨Or.inr inPart, narrowOnly⟩
      · intro matched
        rcases matched with ⟨empty | inPart, narrowOnly⟩
        · exact Or.inl empty
        · exact Or.inr ⟨inPart, narrowOnly⟩

theorem isDecimalDigit_of_isDigit {character : Char} (digit : isDigit character = true) :
    isDecimalDigit character = true := by
  have bounds : 0x30 ≤ character.toNat ∧ character.toNat ≤ 0x39 := by
    simpa [isDigit, Char.le_def, UInt32.le_iff_toNat_le] using digit
  unfold isDecimalDigit CodeRanges.contains decimalDigitRanges
  rw [CodeRanges.containsCode, if_neg (Nat.not_lt.mpr bounds.1)]
  simp [bounds.2]

/-! ## What a validator accepts -/

theorem dropDecimalDigits?_eq_some_iff {count : Nat} {text rest : List Char} :
    dropDecimalDigits? count text = some rest ↔
      ∃ run, text = run ++ rest ∧ (digits count).Matches isDecimalDigit run := by
  simp only [Matches]
  induction count generalizing text with
  | zero => simp [dropDecimalDigits?]
  | succ count induction =>
      cases text with
      | nil => simp [dropDecimalDigits?]
      | cons first others =>
          rw [dropDecimalDigits?]
          constructor
          · intro dropped
            split_ifs at dropped with digit
            rcases induction.mp dropped with ⟨run, rfl, rfl, allDigits⟩
            exact ⟨first :: run, rfl, rfl, List.forall_mem_cons.mpr ⟨digit, allDigits⟩⟩
          · intro starts
            rcases starts with ⟨run, split, length, allDigits⟩
            cases run with
            | nil => cases length
            | cons head tail =>
                rcases List.cons.inj split with ⟨rfl, rfl⟩
                rcases List.forall_mem_cons.mp allDigits with ⟨digit, inTail⟩
                rw [if_pos digit]
                exact induction.mpr ⟨tail, rfl, Nat.succ.inj length, inTail⟩

theorem dropCharacter?_eq_some_iff {wanted : Char} {text rest : List Char} :
    Timestamp.dropCharacter? wanted text = some rest ↔ text = wanted :: rest := by
  cases text with
  | nil => simp [Timestamp.dropCharacter?]
  | cons first others =>
      by_cases same : first = wanted <;> simp [Timestamp.dropCharacter?, same]

theorem matches_digits_then_iff {count : Nat} {next : Shape} {text : List Char} :
    (sequence (.digits count) next).Matches isDecimalDigit text ↔
      ∃ rest, dropDecimalDigits? count text = some rest ∧ next.Matches isDecimalDigit rest := by
  rw [Matches]
  constructor
  · intro matched
    rcases matched with ⟨run, rest, split, inRun, inRest⟩
    exact ⟨rest, dropDecimalDigits?_eq_some_iff.mpr ⟨run, split, inRun⟩, inRest⟩
  · intro matched
    rcases matched with ⟨rest, dropped, inRest⟩
    rcases dropDecimalDigits?_eq_some_iff.mp dropped with ⟨run, split, inRun⟩
    exact ⟨run, rest, split, inRun, inRest⟩

theorem matches_character_then_iff {isDigit : Char → Bool} {wanted : Char} {next : Shape}
    {text : List Char} :
    (sequence (.character wanted) next).Matches isDigit text ↔
      ∃ rest, Timestamp.dropCharacter? wanted text = some rest ∧ next.Matches isDigit rest := by
  simp only [Matches, dropCharacter?_eq_some_iff]
  constructor
  · intro matched
    rcases matched with ⟨before, rest, split, single, inRest⟩
    rw [single] at split
    exact ⟨rest, split, inRest⟩
  · intro matched
    rcases matched with ⟨rest, split, inRest⟩
    exact ⟨[wanted], rest, split, rfl, inRest⟩

theorem matches_digits_iff {count : Nat} {text : List Char} :
    (digits count).Matches isDecimalDigit text ↔ dropDecimalDigits? count text = some [] := by
  rw [dropDecimalDigits?_eq_some_iff]
  constructor
  · intro inRun
    exact ⟨text, (List.append_nil text).symm, inRun⟩
  · intro starts
    rcases starts with ⟨run, split, inRun⟩
    rwa [split, List.append_nil]

theorem isPlainDate_iff (text : String) :
    isPlainDate text = true ↔ plainDate.Matches isDecimalDigit text.toList := by
  simp only [plainDate, matches_digits_then_iff, matches_character_then_iff, matches_digits_iff]
  simp [isPlainDate, Option.bind_eq_some_iff]

theorem matches_fraction_iff (text : List Char) :
    (optional (.sequence (.character '.') .someDigits)).Matches isDecimalDigit text ↔
      text = [] ∨ ∃ fraction, text = '.' :: fraction ∧
        (!fraction.isEmpty && fraction.all isDecimalDigit) = true := by
  rw [Matches, matches_character_then_iff]
  simp [Matches, dropCharacter?_eq_some_iff]

theorem isPlainTimeEnd_iff (text : List Char) :
    isPlainTimeEnd text = true ↔ (optional seconds).Matches isDecimalDigit text := by
  rw [Matches, seconds, matches_character_then_iff]
  simp only [matches_digits_then_iff, matches_fraction_iff, dropCharacter?_eq_some_iff]
  unfold isPlainTimeEnd
  split
  · simp
  · next rest =>
      cases dropped : dropDecimalDigits? 2 rest with
      | none => simp [dropped]
      | some behind =>
          cases behind with
          | nil => simp [dropped]
          | cons first fraction =>
              by_cases point : first = '.'
              · simp [dropped, point]
              · simp [dropped, point]
  · next notEmpty notColon =>
      constructor
      · intro impossible
        cases impossible
      · intro described
        rcases described with empty | ⟨rest, colon, _⟩
        · exact absurd empty notEmpty
        · exact absurd colon (notColon rest)

theorem isPlainTime_iff (text : String) :
    isPlainTime text = true ↔ plainTime.Matches isDecimalDigit text.toList := by
  simp only [plainTime, matches_digits_then_iff, matches_character_then_iff, ← isPlainTimeEnd_iff]
  unfold isPlainTime
  cases hours : dropDecimalDigits? 2 text.toList with
  | none => simp
  | some behindHours =>
      cases colon : Timestamp.dropCharacter? ':' behindHours with
      | none => simp [colon]
      | some behindColon =>
          cases minutes : dropDecimalDigits? 2 behindColon <;> simp [colon, minutes]

end Shape

def DateTimeKind.shape? : DateTimeKind → Option Shape
  | .plainDate => some .plainDate
  | .plainTime => some .plainTime
  | .utc => none
  | .offset => none

namespace Check

variable {kind : DateTimeKind} {shape : Shape}

theorem guard_of_shape? (plain : kind.shape? = some shape) :
    (dateTime kind).guard = ofTextGuard ("!/^" ++ shape.source ++ "$/.test(value)") := by
  cases kind with
  | plainDate =>
      cases plain
      decide +kernel
  | plainTime =>
      cases plain
      decide +kernel
  | _ => cases plain

theorem isViolatedBy_of_shape? (plain : kind.shape? = some shape) (text : String) :
    (dateTime kind).isViolatedBy (.text text) = false ↔
      shape.Matches isDecimalDigit text.toList := by
  cases kind with
  | plainDate =>
      cases plain
      simp [isViolatedBy, isViolatedByText, DateTimeKind.accepts, ← Shape.isPlainDate_iff]
  | plainTime =>
      cases plain
      simp [isViolatedBy, isViolatedByText, DateTimeKind.accepts, ← Shape.isPlainTime_iff]
  | _ => cases plain

theorem matches_isDigit_iff (plain : kind.shape? = some shape) (text : List Char) :
    shape.Matches isDigit text ↔
      shape.Matches isDecimalDigit text ∧
        ∀ character ∈ text, isDecimalDigit character = true → isDigit character = true := by
  have separate : shape.characters.any isDecimalDigit = false := by
    cases kind with
    | plainDate =>
        cases plain
        decide +kernel
    | plainTime =>
        cases plain
        decide +kernel
    | _ => cases plain
  apply Shape.matches_iff_of_imp fun _ => Shape.isDecimalDigit_of_isDigit
  simpa using separate

/-- A plain date or time is checked by the expression in its guard, read with the decimal digits of
all scripts. So it is checked as the guard does exactly if it is refused or all its digits are
ASCII. -/
theorem isViolatedBy_plain {kind : DateTimeKind} {shape : Shape}
    (plain : kind.shape? = some shape) (text : String) :
    (dateTime kind).guard = ofTextGuard ("!/^" ++ shape.source ++ "$/.test(value)") ∧
    ((dateTime kind).isViolatedBy (.text text) = false ↔
      shape.Matches isDecimalDigit text.toList) ∧
    (((dateTime kind).isViolatedBy (.text text) = false ↔ shape.Matches isDigit text.toList) ↔
      ((dateTime kind).isViolatedBy (.text text) = false →
        ∀ character ∈ text.toList, isDecimalDigit character = true →
          isDigit character = true)) := by
  refine ⟨guard_of_shape? plain, isViolatedBy_of_shape? plain text, ?_⟩
  rw [matches_isDigit_iff plain, isViolatedBy_of_shape? plain]
  constructor
  · intro same accepted
    exact (same.mp accepted).2
  · intro ascii
    exact ⟨fun accepted => ⟨accepted, ascii accepted⟩, And.left⟩

/-- A date in Arabic-Indic digits passes the check, but not the guard. -/
theorem isViolatedBy_plain_arabicDigits :
    DateTimeKind.plainDate.shape? = some .plainDate ∧
    (dateTime .plainDate).isViolatedBy (.text "٢٠٢٤-٠٥-٠١") = false ∧
    ¬Shape.plainDate.Matches isDigit "٢٠٢٤-٠٥-٠١".toList := by
  have plain : DateTimeKind.plainDate.shape? = some .plainDate := rfl
  have accepted : (dateTime .plainDate).isViolatedBy (.text "٢٠٢٤-٠٥-٠١") = false := by
    decide +kernel
  refine ⟨plain, accepted, ?_⟩
  intro ascii
  have onlyAscii := (isViolatedBy_plain plain "٢٠٢٤-٠٥-٠١").2.2.mp
    ⟨fun _ => ascii, fun _ => accepted⟩ accepted
  have isAscii : isDigit '٢' = true := onlyAscii '٢' (by simp) (by decide +kernel)
  simp [isDigit] at isAscii

end Check

end EntitySchema
