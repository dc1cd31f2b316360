import Mathlib
import EntitySchema.Number.Basic
import EntitySchema.Proofs.Number.Rounding
import EntitySchema.Proofs.Text
/-!
The text of a number, digit by digit: what the digits spell, how a positional decimal is laid out,
and that reading the text of a finite double gives that double.
-/

namespace EntitySchema

/-! ## Runs of digits -/

theorem isDigit_of_mem_decimalDigits {value : Nat} {character : Char}
    (member : character ∈ decimalDigits value) : isDigit character = true := by
  have digit := Nat.isDigit_of_mem_toDigits (by decide) (by decide) member
  simpa [isDigit, Char.isDigit, Char.le_def] using digit

theorem decimalDigits_ne_nil (value : Nat) : decimalDigits value ≠ [] := Nat.toDigits_ne_nil

theorem valueOfDigits_eq (digits : List Char) :
    valueOfDigits digits = Nat.ofDigitChars 10 digits 0 := by
  simp [valueOfDigits, Nat.ofDigitChars, digitValue]

@[simp] theorem valueOfDigits_decimalDigits (value : Nat) :
    valueOfDigits (decimalDigits value) = value := by
  rw [valueOfDigits_eq]
  exact Nat.ofDigitChars_ten_toDigits

theorem valueOfDigits_append_zeros (digits : List Char) (count : Nat) :
    valueOfDigits (digits ++ List.replicate count '0') = valueOfDigits digits * 10 ^ count := by
  rw [valueOfDigits_eq, Nat.ofDigitChars_append, Nat.ofDigitChars_replicate_zero,
    ← valueOfDigits_eq, Nat.mul_comm]

theorem valueOfDigits_zeros_append (digits : List Char) (count : Nat) :
    valueOfDigits (List.replicate count '0' ++ digits) = valueOfDigits digits := by
  rw [valueOfDigits_eq, Nat.ofDigitChars_append, Nat.ofDigitChars_replicate_zero, Nat.mul_zero,
    ← valueOfDigits_eq]

theorem decimalDigits_mul_pow {value : Nat} (positive : 0 < value) (count : Nat) :
    decimalDigits (value * 10 ^ count) = decimalDigits value ++ List.replicate count '0' := by
  induction count with
  | zero => simp
  | succ count induction =>
      have shifted : value * 10 ^ (count + 1) = 10 * (value * 10 ^ count) + 0 := by
        ring
      have nonzero : 0 < value * 10 ^ count := Nat.mul_pos positive (Nat.pow_pos (by decide))
      rw [shifted, decimalDigits, ← Nat.toDigits_append_toDigits (by decide) nonzero (by decide)]
      rw [← decimalDigits, induction, List.replicate_succ', List.append_assoc]
      rfl

/-! ## Positional decimals -/

namespace Decimal

theorem read?_of_digits {digits : List Char} (allDigits : ∀ digit ∈ digits, isDigit digit)
    (nonempty : digits ≠ []) :
    read? digits = some { digits := valueOfDigits digits, exponent := 0 } := by
  have taken := List.takeWhile_eq_self_iff.mpr allDigits
  have dropped := List.dropWhile_eq_nil_iff.mpr allDigits
  simp [read?, taken, dropped, takeFraction, readExponent?, nonempty]

theorem read?_of_fraction {whole fraction : List Char}
    (wholeDigits : ∀ digit ∈ whole, isDigit digit)
    (fractionDigits : ∀ digit ∈ fraction, isDigit digit) (nonempty : whole ≠ []) :
    read? (whole ++ '.' :: fraction) =
      some { digits := valueOfDigits (whole ++ fraction), exponent := -fraction.length } := by
  have point : StopsAt isDigit ('.' :: fraction) := (stopsAt_cons ..).mpr rfl
  have taken := takeWhile_append_of_stopsAt wholeDigits point
  have dropped := dropWhile_append_of_stopsAt wholeDigits point
  have fractionTaken := List.takeWhile_eq_self_iff.mpr fractionDigits
  have fractionDropped := List.dropWhile_eq_nil_iff.mpr fractionDigits
  simp [read?, taken, dropped, takeFraction, fractionTaken, fractionDropped, readExponent?,
    nonempty]

/-- With an exponent that is not negative, the text is a run of digits. -/
theorem positional_of_whole (decimal : Decimal) (whole : 0 ≤ decimal.exponent) :
    decimal.positional ≠ [] ∧ (∀ digit ∈ decimal.positional, isDigit digit) ∧
      valueOfDigits decimal.positional = decimal.digits * 10 ^ decimal.exponent.toNat := by
  simp only [positional, if_pos whole]
  refine ⟨by simp [decimalDigits_ne_nil], ?_, ?_⟩
  · intro digit member
    rcases List.mem_append.mp member with inDigits | inZeros
    · exact isDigit_of_mem_decimalDigits inDigits
    · rw [List.eq_of_mem_replicate inZeros]
      decide
  · rw [valueOfDigits_append_zeros, valueOfDigits_decimalDigits]

/-- With a negative exponent, the text is two runs of digits around a point, the second as long as
the exponent says. -/
theorem positional_of_fraction (decimal : Decimal) (fractional : decimal.exponent < 0) :
    ∃ whole fraction, decimal.positional = whole ++ '.' :: fraction ∧ whole ≠ [] ∧
      (∀ digit ∈ whole, isDigit digit) ∧ (∀ digit ∈ fraction, isDigit digit) ∧
      valueOfDigits (whole ++ fraction) = decimal.digits ∧
      -(fraction.length : Int) = decimal.exponent := by
  have notWhole : ¬ 0 ≤ decimal.exponent := by omega
  simp only [positional, if_neg notWhole]
  generalize placesEqual : (-decimal.exponent).toNat = places
  generalize paddedEqual :
    List.replicate (places + 1 - (decimalDigits decimal.digits).length) '0' ++
      decimalDigits decimal.digits = padded
  have longEnough : places < padded.length := by
    simp [← paddedEqual]
    omega
  have allDigits : ∀ digit ∈ padded, isDigit digit := by
    rw [← paddedEqual]
    intro digit member
    rcases List.mem_append.mp member with inZeros | inDigits
    · rw [List.eq_of_mem_replicate inZeros]
      decide
    · exact isDigit_of_mem_decimalDigits inDigits
  refine ⟨padded.take (padded.length - places), padded.drop (padded.length - places), rfl, ?_,
    fun digit member => allDigits digit (List.mem_of_mem_take member),
    fun digit member => allDigits digit (List.mem_of_mem_drop member), ?_, ?_⟩
  · intro empty
    have noLength := congrArg List.length empty
    simp at noLength
    omega
  · rw [List.take_append_drop, ← paddedEqual, valueOfDigits_zeros_append,
      valueOfDigits_decimalDigits]
  · simp
    omega

theorem shortest_of_zero (tie : Tie) {rank : Fin finiteRanks} (zero : rank.val = 0) :
    shortest tie rank = { digits := 0, exponent := 0 } := by
  rw [shortest, if_pos zero]

theorem rank_of_digits_shortest {tie : Tie} {rank : Fin finiteRanks}
    (zero : (shortest tie rank).digits = 0) : rank.val = 0 := by
  have readsBack := ofDecimal_shortest tie rank
  rw [Binary64.ofDecimal, if_pos zero] at readsBack
  cases readsBack
  rfl

/-- A whole number is written without leading zeros. -/
theorem positional_shortest_of_whole {tie : Tie} {rank : Fin finiteRanks}
    (whole : 0 ≤ (shortest tie rank).exponent) :
    (shortest tie rank).positional =
      decimalDigits (valueOfDigits (shortest tie rank).positional) := by
  by_cases zero : (shortest tie rank).digits = 0
  · rw [shortest_of_zero tie (rank_of_digits_shortest zero)]
    decide
  · rw [(positional_of_whole _ whole).2.2, decimalDigits_mul_pow (Nat.pos_of_ne_zero zero),
      positional, if_pos whole]

end Decimal

/-! ## Signs -/

def withSign (negative : Bool) (magnitude : List Char) : List Char :=
  if negative then '-' :: magnitude else magnitude

def StartsWithDigit (text : List Char) : Prop :=
  ∃ first rest, text = first :: rest ∧ isDigit first = true

theorem startsWithDigit_of_digits {digits : List Char} (nonempty : digits ≠ [])
    (allDigits : ∀ digit ∈ digits, isDigit digit) (rest : List Char) :
    StartsWithDigit (digits ++ rest) := by
  cases digits with
  | nil => exact absurd rfl nonempty
  | cons first digits => exact ⟨first, digits ++ rest, rfl, allDigits first (by simp)⟩

theorem takeSign_withSign {magnitude : List Char} (digit : StartsWithDigit magnitude)
    (negative : Bool) : Decimal.takeSign (withSign negative magnitude) = (negative, magnitude) := by
  rcases digit with ⟨first, rest, rfl, digit⟩
  cases negative with
  | true => rfl
  | false =>
      have notMinus : first ≠ '-' := fun minus => by simp [minus, isDigit] at digit
      have notPlus : first ≠ '+' := fun plus => by simp [plus, isDigit] at digit
      simp [withSign, Decimal.takeSign, notMinus, notPlus]

theorem signedDigits_eq_withSign (value : Int) :
    signedDigits value = withSign (value < 0) (decimalDigits value.natAbs) := by
  by_cases negative : value < 0 <;> simp [signedDigits, withSign, negative]

theorem Decimal.startsWithDigit_positional (decimal : Decimal) :
    StartsWithDigit decimal.positional := by
  by_cases whole : 0 ≤ decimal.exponent
  · rcases decimal.positional_of_whole whole with ⟨nonempty, allDigits, _⟩
    simpa using startsWithDigit_of_digits nonempty allDigits []
  · rcases decimal.positional_of_fraction (by omega) with
        ⟨before, after, text, nonempty, allDigits, _⟩
    rw [text]
    exact startsWithDigit_of_digits nonempty allDigits ('.' :: after)

/-! ## Doubles -/

namespace Binary64

theorem chars_finite (negative : Bool) (rank : Fin finiteRanks) :
    (finite negative rank).chars =
      withSign negative (Decimal.shortest .upward rank).positional := rfl

/-- The digits of the shortest decimal read as a decimal that stands for the same double. -/
theorem exists_read?_shortest (tie : Decimal.Tie) (rank : Fin finiteRanks) (negative : Bool) :
    ∃ decimal, Decimal.read? (Decimal.shortest tie rank).positional = some decimal ∧
      ofDecimal negative decimal = .finite negative rank := by
  have readsBack := ofDecimal_of_unsigned (Decimal.ofDecimal_shortest tie rank) negative
  generalize Decimal.shortest tie rank = shortest at readsBack
  by_cases whole : 0 ≤ shortest.exponent
  · rcases shortest.positional_of_whole whole with ⟨nonempty, allDigits, value⟩
    refine ⟨_, Decimal.read?_of_digits allDigits nonempty, ?_⟩
    rw [value]
    exact ofDecimal_whole whole readsBack
  · rcases shortest.positional_of_fraction (by omega) with
        ⟨before, after, text, nonempty, beforeDigits, afterDigits, value, places⟩
    refine ⟨shortest, ?_, readsBack⟩
    rw [text, Decimal.read?_of_fraction beforeDigits afterDigits nonempty, value, places]

/-- The text of a finite double reads as that double. -/
theorem read?_chars (negative : Bool) (rank : Fin finiteRanks) :
    read? (finite negative rank).chars = some (.finite negative rank) := by
  rcases exists_read?_shortest .upward rank negative with ⟨decimal, read, value⟩
  rw [chars_finite, read?, takeSign_withSign (Decimal.startsWithDigit_positional _)]
  simp [read, value]

@[simp] theorem equals_finite_self (negative : Bool) (rank : Fin finiteRanks) :
    (finite negative rank).equals (.finite negative rank) = true := by
  simp [equals, position?]

theorem ofInt_zero : ofInt 0 = .finite false ⟨0, finiteRanks_pos⟩ := by
  simp [ofInt, ofRatio, ofUnits, nearestRank, roundHalfEven, finiteRanks, ranksPerExponent_eq]

/-- A double whose text is a whole number equals that number, with the two zeros taken together. -/
theorem ofInt_equals_of_ofDecimal {value : Nat} {negative : Bool} {rank : Fin finiteRanks}
    (double : ofDecimal negative { digits := value, exponent := 0 } = .finite negative rank) :
    (ofInt (if negative then -(value : Int) else value)).equals (.finite negative rank) = true := by
  by_cases zero : value = 0
  · subst zero
    simp only [ofDecimal, if_true] at double
    injection double with _ sameRank
    subst sameRank
    have integer : (if negative then -((0 : Nat) : Int) else ((0 : Nat) : Int)) = 0 := by
      cases negative <;> rfl
    rw [integer, ofInt_zero]
    cases negative <;> simp [equals, position?]
  · have sameDouble : ofInt (if negative then -(value : Int) else value) =
        .finite negative rank := by
      have notTiny : ¬ (value.log2 : Int) < -400 := by omega
      have ratio : ofRatio negative value 1 = .finite negative rank := by
        simpa [ofDecimal, zero, notTiny] using double
      rw [← ratio]
      cases negative with
      | false => simp [ofInt, Int.not_lt_of_ge (Int.natCast_nonneg value)]
      | true => simp [ofInt, Nat.pos_of_ne_zero zero]
    rw [sameDouble]
    exact equals_finite_self negative rank

end Binary64

/-! ## Characters -/

def isNumeralPart (character : Char) : Bool :=
  isDigit character || character ∈ ['-', '.', 'i', 'n', 'f', 'N', 'a']

theorem isNumeralPart_of_isDigit {character : Char} (digit : isDigit character = true) :
    isNumeralPart character = true := by
  simp [isNumeralPart, digit]

theorem isNumeralPart_of_mem_positional {decimal : Decimal} {character : Char}
    (member : character ∈ decimal.positional) : isNumeralPart character = true := by
  by_cases whole : 0 ≤ decimal.exponent
  · exact isNumeralPart_of_isDigit ((decimal.positional_of_whole whole).2.1 character member)
  · rcases decimal.positional_of_fraction (by omega) with
      ⟨before, after, text, _, beforeDigits, afterDigits, _⟩
    rw [text, List.mem_append, List.mem_cons] at member
    rcases member with inBefore | point | inAfter
    · exact isNumeralPart_of_isDigit (beforeDigits character inBefore)
    · rw [point]
      decide
    · exact isNumeralPart_of_isDigit (afterDigits character inAfter)

theorem isNumeralPart_of_mem_withSign {negative : Bool} {magnitude : List Char}
    (each : ∀ character ∈ magnitude, isNumeralPart character = true) :
    ∀ character ∈ withSign negative magnitude, isNumeralPart character = true := by
  cases negative with
  | false => exact each
  | true => exact List.forall_mem_cons.mpr ⟨by decide, each⟩

theorem Number.isNumeralPart_of_mem_chars {number : Number} :
    ∀ character ∈ number.chars, isNumeralPart character = true := by
  cases number with
  | int value =>
      rw [Number.chars, signedDigits_eq_withSign]
      apply isNumeralPart_of_mem_withSign
      intro character member
      exact isNumeralPart_of_isDigit (isDigit_of_mem_decimalDigits member)
  | float value =>
      cases value with
      | finite negative rank =>
          rw [Number.chars, Binary64.chars_finite]
          apply isNumeralPart_of_mem_withSign
          intro character member
          exact isNumeralPart_of_mem_positional member
      | infinite negative =>
          cases negative <;> simp [Number.chars, Binary64.chars, isNumeralPart]
      | nan => simp [Number.chars, Binary64.chars, isNumeralPart]

theorem withSign_ne_nil {magnitude : List Char} (nonempty : magnitude ≠ []) (negative : Bool) :
    withSign negative magnitude ≠ [] := by
  cases negative with
  | false => exact nonempty
  | true => exact List.cons_ne_nil _ _

theorem Number.chars_ne_nil (number : Number) : number.chars ≠ [] := by
  cases number with
  | int value =>
      rw [Number.chars, signedDigits_eq_withSign]
      exact withSign_ne_nil (decimalDigits_ne_nil _) _
  | float value =>
      cases value with
      | finite negative rank =>
          rcases (Decimal.shortest .upward rank).startsWithDigit_positional with
            ⟨first, rest, text, _⟩
          rw [Number.chars, Binary64.chars_finite, text]
          exact withSign_ne_nil (List.cons_ne_nil _ _) _
      | infinite negative => cases negative <;> simp [Number.chars, Binary64.chars]
      | nan => simp [Number.chars, Binary64.chars]

end EntitySchema
