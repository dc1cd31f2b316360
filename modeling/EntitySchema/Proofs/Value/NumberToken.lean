import Mathlib
import EntitySchema.Proofs.Number.Text
import EntitySchema.Value.Reader
/-!
Number literals: the text of a finite number reads as a number equal to it, and a number that was
read does not depend on the text behind it, unless that goes on like a number.
-/

namespace EntitySchema

namespace Value

/-! ## The extent of a token -/

def isNumberPart (character : Char) : Bool :=
  isDigit character || character == '.' || character == 'e' || character == 'E' ||
    character == '+' || character == '-'

/-- Whether a token is fractional once it has gone on with the character, which may also end it. -/
def nextFractional? (fractional : Bool) (character : Char) : Option Bool :=
  if isDigit character then some fractional
  else if character = '.' ∨ character = 'e' ∨ character = 'E' ∨ character = '+' then some true
  else if character = '-' ∧ fractional then some fractional
  else none

theorem scanNumber_nil (fractional : Bool) : scanNumber fractional [] = ((fractional, []), []) := by
  rw [scanNumber.eq_def]

theorem scanNumber_cons_of_some {fractional next : Bool} {first : Char}
    (goesOn : nextFractional? fractional first = some next) (rest : List Char) :
    scanNumber fractional (first :: rest) =
      (((scanNumber next rest).1.1, first :: (scanNumber next rest).1.2),
        (scanNumber next rest).2) := by
  rw [scanNumber.eq_def]
  unfold nextFractional? at goesOn
  split_ifs at goesOn with digit mark minus
  · cases goesOn
    simp [digit]
  · cases goesOn
    simp [digit, mark]
  · cases goesOn
    simp [minus, isDigit]

theorem scanNumber_cons_of_none {fractional : Bool} {first : Char}
    (ends : nextFractional? fractional first = none) (rest : List Char) :
    scanNumber fractional (first :: rest) = ((fractional, []), first :: rest) := by
  rw [scanNumber.eq_def]
  unfold nextFractional? at ends
  split_ifs at ends with digit mark minus
  simp only [digit, mark, minus, if_false]
  simp

theorem scanNumber_of_stopsAt {rest : List Char} (stops : StopsAt isNumberPart rest)
    (fractional : Bool) : scanNumber fractional rest = ((fractional, []), rest) := by
  cases rest with
  | nil => exact scanNumber_nil fractional
  | cons first rest =>
      rw [stopsAt_cons] at stops
      apply scanNumber_cons_of_none
      simp_all [isNumberPart, nextFractional?]

theorem scanNumber_append {text token rest : List Char} {fractional ends : Bool}
    (scanned : scanNumber fractional text = ((ends, token), []))
    (stops : StopsAt isNumberPart rest) :
    scanNumber fractional (text ++ rest) = ((ends, token), rest) := by
  induction text generalizing fractional token with
  | nil =>
      rw [scanNumber_nil] at scanned
      cases scanned
      exact scanNumber_of_stopsAt stops _
  | cons first text induction =>
      cases next : nextFractional? fractional first with
      | none => simp [scanNumber_cons_of_none next] at scanned
      | some next' =>
          rw [scanNumber_cons_of_some next] at scanned
          injection scanned with parts noneLeft
          injection parts with sameEnd sameToken
          have scannedText : scanNumber next' text =
              ((ends, (scanNumber next' text).1.2), []) := by
            rw [← sameEnd, ← noneLeft]
          rw [List.cons_append, scanNumber_cons_of_some next, induction scannedText, ← sameToken]

theorem scanSignedNumber_minus (rest : List Char) :
    scanSignedNumber ('-' :: rest) =
      (((scanNumber false rest).1.1, '-' :: (scanNumber false rest).1.2),
        (scanNumber false rest).2) := rfl

theorem scanSignedNumber_of_ne_minus {first : Char} (unsigned : first ≠ '-') (rest : List Char) :
    scanSignedNumber (first :: rest) = scanNumber false (first :: rest) := by
  unfold scanSignedNumber
  split
  · next equal =>
      injection equal with same
      exact absurd same unsigned
  · rfl

theorem scanSignedNumber_append {text token rest : List Char} {ends : Bool}
    (nonempty : text ≠ []) (scanned : scanSignedNumber text = ((ends, token), []))
    (stops : StopsAt isNumberPart rest) :
    scanSignedNumber (text ++ rest) = ((ends, token), rest) := by
  cases text with
  | nil => exact absurd rfl nonempty
  | cons first text =>
      by_cases minus : first = '-'
      · subst minus
        rw [scanSignedNumber_minus] at scanned
        injection scanned with parts noneLeft
        injection parts with sameEnd sameToken
        have scannedText : scanNumber false text =
            ((ends, (scanNumber false text).1.2), []) := by
          rw [← sameEnd, ← noneLeft]
        rw [List.cons_append, scanSignedNumber_minus, scanNumber_append scannedText stops,
          ← sameToken]
      · rw [scanSignedNumber_of_ne_minus minus] at scanned
        rw [List.cons_append, scanSignedNumber_of_ne_minus minus]
        exact scanNumber_append scanned stops

theorem readNumber_eq_ok_iff {text unread : List Char} {number : Number} :
    readNumber text = .ok (number, unread) ↔
      ∃ fractional token, scanSignedNumber text = ((fractional, token), unread) ∧
        numberOfToken? fractional token = some number := by
  rcases scanned : scanSignedNumber text with ⟨⟨fractional, token⟩, left⟩
  cases found : numberOfToken? fractional token with
  | none =>
      simp only [readNumber, scanned, found]
      constructor
      · intro failed
        cases failed
      · rintro ⟨_, _, same, read⟩
        cases same
        simp [found] at read
  | some value =>
      simp only [readNumber, scanned, found]
      constructor
      · intro read
        cases read
        exact ⟨fractional, token, rfl, found⟩
      · rintro ⟨_, _, same, read⟩
        cases same
        cases found.symm.trans read
        rfl

theorem numberOfToken?_eq_some {fractional : Bool} {token : List Char} {number : Number}
    (found : numberOfToken? fractional token = some number) :
    (∃ integer, fractional = false ∧ int64OfToken? token = some integer ∧ number = .int integer) ∨
      ∃ double, Binary64.read? token = some double ∧ number = .float double := by
  unfold numberOfToken? at found
  split at found
  · next integer token =>
      cases fractional with
      | false => exact .inl ⟨integer, rfl, by simpa using token, (Option.some.inj found).symm⟩
      | true => cases token
  · rcases Option.map_eq_some_iff.mp found with ⟨double, read, same⟩
    exact .inr ⟨double, read, same.symm⟩

/-- A number that was read is read in the same way when text follows that ends it. -/
theorem readNumber_append {text rest : List Char} {number : Number} (nonempty : text ≠ [])
    (read : readNumber text = .ok (number, [])) (stops : StopsAt isNumberPart rest) :
    readNumber (text ++ rest) = .ok (number, rest) := by
  rcases readNumber_eq_ok_iff.mp read with ⟨fractional, token, scanned, value⟩
  exact readNumber_eq_ok_iff.mpr
    ⟨fractional, token, scanSignedNumber_append nonempty scanned stops, value⟩

/-! ## The text of a number -/

theorem scanNumber_digits {digits : List Char} (allDigits : ∀ digit ∈ digits, isDigit digit)
    (fractional : Bool) (rest : List Char) :
    scanNumber fractional (digits ++ rest) =
      (((scanNumber fractional rest).1.1, digits ++ (scanNumber fractional rest).1.2),
        (scanNumber fractional rest).2) := by
  induction digits with
  | nil => simp
  | cons first digits induction =>
      have digit : isDigit first := allDigits first (by simp)
      have next : nextFractional? fractional first = some fractional := by
        simp [nextFractional?, digit]
      rw [List.cons_append, scanNumber_cons_of_some next,
        induction fun other member => allDigits other (by simp [member])]
      simp

theorem scanSignedNumber_withSign {magnitude : List Char} (digit : StartsWithDigit magnitude)
    (negative : Bool) :
    scanSignedNumber (withSign negative magnitude) =
      (((scanNumber false magnitude).1.1, withSign negative (scanNumber false magnitude).1.2),
        (scanNumber false magnitude).2) := by
  cases negative with
  | true => rfl
  | false =>
      rcases digit with ⟨first, rest, rfl, digit⟩
      have unsigned : first ≠ '-' := fun minus => by simp [minus, isDigit] at digit
      simp [withSign, scanSignedNumber_of_ne_minus unsigned]

theorem scanSignedNumber_digits {digits : List Char} (nonempty : digits ≠ [])
    (allDigits : ∀ digit ∈ digits, isDigit digit) (negative : Bool) :
    scanSignedNumber (withSign negative digits) = ((false, withSign negative digits), []) := by
  have start := startsWithDigit_of_digits nonempty allDigits []
  have scanned := scanNumber_digits allDigits false []
  rw [List.append_nil] at start scanned
  rw [scanSignedNumber_withSign start, scanned, scanNumber_nil]
  simp

theorem scanSignedNumber_fraction {whole fraction : List Char} (nonempty : whole ≠ [])
    (wholeDigits : ∀ digit ∈ whole, isDigit digit)
    (fractionDigits : ∀ digit ∈ fraction, isDigit digit) (negative : Bool) :
    scanSignedNumber (withSign negative (whole ++ '.' :: fraction)) =
      ((true, withSign negative (whole ++ '.' :: fraction)), []) := by
  have point : nextFractional? false '.' = some true := rfl
  have scanned := scanNumber_digits fractionDigits true []
  rw [List.append_nil] at scanned
  rw [scanSignedNumber_withSign (startsWithDigit_of_digits nonempty wholeDigits _),
    scanNumber_digits wholeDigits, scanNumber_cons_of_some point, scanned, scanNumber_nil]
  simp

theorem int64OfToken?_withSign {digits : List Char} (nonempty : digits ≠ [])
    (allDigits : ∀ digit ∈ digits, isDigit digit) (negative : Bool) :
    int64OfToken? (withSign negative digits) =
      int64OfInt? (if negative then -(valueOfDigits digits : Int) else valueOfDigits digits) := by
  cases negative with
  | true => simp [withSign, int64OfToken?, nonempty]
  | false =>
      cases digits with
      | nil => exact absurd rfl nonempty
      | cons first rest =>
          have digit : isDigit first := allDigits first (by simp)
          have unsigned : first ≠ '-' := fun minus => by simp [minus, isDigit] at digit
          simp [withSign, int64OfToken?, unsigned]

theorem int64OfInt?_eq_some {value : Int} {integer : Int64}
    (fits : int64OfInt? value = some integer) : integer.toInt = value := by
  unfold int64OfInt? inInt64Range at fits
  split_ifs at fits with range
  simp only [Bool.and_eq_true, decide_eq_true_eq] at range
  cases fits
  exact Int64.toInt_ofInt_of_le (by omega) (by omega)

theorem int64OfInt?_toInt (integer : Int64) : int64OfInt? integer.toInt = some integer := by
  have range : inInt64Range integer.toInt = true := by
    have least := integer.le_toInt
    have greatest := integer.toInt_lt
    simp only [inInt64Range, Bool.and_eq_true, decide_eq_true_eq]
    omega
  simp [int64OfInt?, range]

theorem readNumber_signedDigits (integer : Int64) :
    readNumber (signedDigits integer.toInt) = .ok (.int integer, []) := by
  have nonempty := decimalDigits_ne_nil integer.toInt.natAbs
  have allDigits : ∀ digit ∈ decimalDigits integer.toInt.natAbs, isDigit digit :=
    fun digit member => isDigit_of_mem_decimalDigits member
  have value : (if decide (integer.toInt < 0) then -(integer.toInt.natAbs : Int)
      else integer.toInt.natAbs) = integer.toInt := by
    simp only [decide_eq_true_eq]
    omega
  rw [signedDigits_eq_withSign]
  refine readNumber_eq_ok_iff.mpr
    ⟨false, _, scanSignedNumber_digits nonempty allDigits _, ?_⟩
  have token := int64OfToken?_withSign nonempty allDigits (integer.toInt < 0)
  rw [valueOfDigits_decimalDigits, value, int64OfInt?_toInt] at token
  simp [numberOfToken?, token]

/-- A double whose text is a whole number may come back as that number. -/
theorem exists_readNumber_finite (negative : Bool) (rank : Fin finiteRanks) :
    ∃ number, readNumber (Binary64.finite negative rank).chars = .ok (number, []) ∧
      number.equals (.float (.finite negative rank)) = true := by
  have readsBack := Binary64.read?_chars negative rank
  rcases Binary64.exists_read?_shortest .upward rank negative with ⟨decimal, readDecimal, double⟩
  rw [Binary64.chars_finite] at readsBack ⊢
  generalize Decimal.shortest .upward rank = shortest at readsBack readDecimal
  have asDouble : Number.equals (.float (.finite negative rank))
      (.float (.finite negative rank)) = true := by
    simp [Number.equals, Number.toBinary64]
  by_cases whole : 0 ≤ shortest.exponent
  · rcases shortest.positional_of_whole whole with ⟨nonempty, allDigits, _⟩
    have scanned := scanSignedNumber_digits nonempty allDigits negative
    rw [Decimal.read?_of_digits allDigits nonempty] at readDecimal
    cases readDecimal
    cases token : int64OfToken? (withSign negative shortest.positional) with
    | none =>
        exact ⟨_, readNumber_eq_ok_iff.mpr
          ⟨_, _, scanned, by simp [numberOfToken?, token, readsBack]⟩, asDouble⟩
    | some integer =>
        refine ⟨.int integer, readNumber_eq_ok_iff.mpr
          ⟨_, _, scanned, by simp [numberOfToken?, token]⟩, ?_⟩
        rw [int64OfToken?_withSign nonempty allDigits] at token
        have equal := Binary64.ofInt_equals_of_ofDecimal double
        rw [← int64OfInt?_eq_some token] at equal
        simpa [Number.equals, Number.toBinary64] using equal
  · rcases shortest.positional_of_fraction (by omega) with
        ⟨before, after, text, nonempty, beforeDigits, afterDigits, _⟩
    rw [text] at readsBack ⊢
    exact ⟨_, readNumber_eq_ok_iff.mpr
      ⟨_, _, scanSignedNumber_fraction nonempty beforeDigits afterDigits negative,
        by simp [numberOfToken?, readsBack]⟩, asDouble⟩

/-- The text of a finite number reads as a number equal to it. -/
theorem exists_readNumber_chars {number : Number} (finite : number.isFinite = true) :
    ∃ same, readNumber number.chars = .ok (same, []) ∧ same.equals number = true := by
  cases number with
  | int integer =>
      exact ⟨.int integer, readNumber_signedDigits integer, by simp [Number.equals]⟩
  | float double =>
      cases double with
      | finite negative rank => exact exists_readNumber_finite negative rank
      | infinite negative => cases finite
      | nan => cases finite

end Value

end EntitySchema
