import Mathlib
import EntitySchema.Proofs.Value.RoundTrip
/-!
Text that is written is canonical.

A value that is read from written text is written again as before, with any indentation. Reading may
change a double into a whole number, but not its digits. Only minus zero loses its sign, since no
whole number has it.
-/

namespace EntitySchema

/-! ## Numbers -/

def Number.withoutMinusZero (number : Number) : Number :=
  if number = .float (.finite true ⟨0, finiteRanks_pos⟩) then .int 0 else number

namespace Value

theorem scanSignedNumber_finite (negative : Bool) (rank : Fin finiteRanks) :
    scanSignedNumber (Binary64.finite negative rank).chars =
      ((decide ((Decimal.shortest .upward rank).exponent < 0),
        (Binary64.finite negative rank).chars), []) := by
  rw [Binary64.chars_finite]
  generalize Decimal.shortest .upward rank = shortest
  by_cases whole : 0 ≤ shortest.exponent
  · rcases shortest.positional_of_whole whole with ⟨nonempty, allDigits, _⟩
    simp [scanSignedNumber_digits nonempty allDigits, whole]
  · rcases shortest.positional_of_fraction (by omega) with
      ⟨before, after, text, nonempty, beforeDigits, afterDigits, _⟩
    simp [text, scanSignedNumber_fraction nonempty beforeDigits afterDigits, not_le.mp whole]

/-- The digits of a double without a fraction are those of the whole number that they spell. -/
theorem signedDigits_of_token {negative : Bool} {rank : Fin finiteRanks} {integer : Int64}
    (nonzero : negative = true → rank.val ≠ 0)
    (whole : 0 ≤ (Decimal.shortest .upward rank).exponent)
    (token : int64OfToken? (Binary64.finite negative rank).chars = some integer) :
    signedDigits integer.toInt = (Binary64.finite negative rank).chars := by
  have digits := Decimal.positional_shortest_of_whole whole
  rcases Decimal.positional_of_whole _ whole with ⟨nonempty, allDigits, value⟩
  rw [Binary64.chars_finite] at token ⊢
  rw [int64OfToken?_withSign nonempty allDigits] at token
  rw [int64OfInt?_eq_some token, signedDigits_eq_withSign]
  cases negative with
  | false => simp [← digits, Int.not_lt.mpr (Int.natCast_nonneg _)]
  | true =>
      have positive : 0 < valueOfDigits (Decimal.shortest .upward rank).positional := by
        rw [value]
        apply Nat.mul_pos _ (Nat.pow_pos (by decide))
        rw [Nat.pos_iff_ne_zero]
        exact fun zero => nonzero rfl (Decimal.rank_of_digits_shortest zero)
      simp [← digits, positive]

/-- The text of a double is read as that double, or as a whole number if it has no fraction. -/
theorem readNumber_finite_cases {negative : Bool} {rank : Fin finiteRanks} {same : Number}
    (readsBack : readNumber (Binary64.finite negative rank).chars = .ok (same, [])) :
    same = .float (.finite negative rank) ∨
      ∃ integer, same = .int integer ∧ 0 ≤ (Decimal.shortest .upward rank).exponent ∧
        int64OfToken? (Binary64.finite negative rank).chars = some integer := by
  rcases readNumber_eq_ok_iff.mp readsBack with ⟨fractional, token, scanned, value⟩
  rw [scanSignedNumber_finite] at scanned
  cases scanned
  rcases numberOfToken?_eq_some value with ⟨integer, notFractional, integral, rfl⟩ |
    ⟨double, read, rfl⟩
  · exact .inr ⟨integer, rfl, by simpa using notFractional, integral⟩
  · rw [Binary64.read?_chars] at read
    cases read
    exact .inl rfl

theorem isFinite_of_readNumber {number same : Number} (finite : number.isFinite = true)
    (readsBack : readNumber number.chars = .ok (same, [])) : same.isFinite = true := by
  cases number with
  | int integer =>
      rw [Number.chars, readNumber_signedDigits] at readsBack
      cases readsBack
      rfl
  | float double =>
      cases double with
      | finite negative rank =>
          rcases readNumber_finite_cases readsBack with rfl | ⟨integer, rfl, _⟩ <;> rfl
      | infinite negative => cases finite
      | nan => cases finite

/-- Reading the text of a number keeps the text, up to the sign of zero. -/
theorem chars_of_readNumber {number same : Number} (finite : number.isFinite = true)
    (readsBack : readNumber number.chars = .ok (same, [])) :
    same.chars = number.withoutMinusZero.chars := by
  by_cases minusZero : number = .float (.finite true ⟨0, finiteRanks_pos⟩)
  · have text : number.chars = ['-', '0'] := by
      subst minusZero
      rfl
    have zero : readNumber ['-', '0'] = .ok (.int 0, []) := by
      rfl
    rw [text, zero] at readsBack
    cases readsBack
    rw [Number.withoutMinusZero, if_pos minusZero]
  · rw [Number.withoutMinusZero, if_neg minusZero]
    cases number with
    | int integer =>
        rw [Number.chars, readNumber_signedDigits] at readsBack
        cases readsBack
        rfl
    | float double =>
        cases double with
        | finite negative rank =>
            rcases readNumber_finite_cases readsBack with rfl | ⟨integer, rfl, whole, token⟩
            · rfl
            · apply signedDigits_of_token _ whole token
              intro isNegative zero
              apply minusZero
              rw [isNegative, show rank = ⟨0, finiteRanks_pos⟩ from Fin.ext zero]
        | infinite negative => cases finite
        | nan => cases finite

/-! ## Values -/

def withoutMinusZeros (value : Value) : Value := value.mapNumbers Number.withoutMinusZero

theorem isFinite_withoutMinusZero {number : Number} (finite : number.isFinite = true) :
    number.withoutMinusZero.isFinite = true := by
  rw [Number.withoutMinusZero]
  split
  · rfl
  · exact finite

theorem write_mapNumbers {change : Number → Number} {value : Value}
    (sourceFree : value.IsSourceFree)
    (finite : ∀ content, .number content ∈ value.nodes → (change content).isFinite = true)
    (indent : Nat) :
    write indent (value.mapNumbers change) =
      .ok (String.ofList ((Style.ofIndent indent).chars (value.mapNumbers change))) := by
  have noSources : (value.mapNumbers change).sources = [] := sourceFree.mapNumbers.sources_eq_nil
  exact write_eq_ok (.mapNumbers finite) (by simp [noSources]) indent

/-- What is written and read back is from then on written as the value was, with any indentation,
but for the minus of its zeros. -/
theorem exists_write_reread (indent : Nat) (value : Value) (sourceFree : value.IsSourceFree)
    (finite : value.HasFiniteNumbers) (built : value.HasBuiltRecords) :
    ∃ text same, write indent value = .ok text ∧ read text = .ok same ∧
      ∀ other, ∃ written, write other same = .ok written ∧
        write other value.withoutMinusZeros = .ok written := by
  have : Nonempty Number := ⟨.int 0⟩
  choose! change readsBack _ using fun content member =>
    exists_readNumber_chars (finite content member)
  have spells := spells_mapNumbers value sourceFree built
    (fun content member => spells_number (finite content member) (readsBack content member))
    (Style.ofIndent indent)
  refine ⟨_, value.mapNumbers change,
    write_eq_ok finite (by simp [sourceFree.sources_eq_nil]) indent, read_of_spells spells, ?_⟩
  intro other
  have rereadFinite : ∀ content, .number content ∈ value.nodes →
      (change content).isFinite = true := fun content member =>
    isFinite_of_readNumber (finite content member) (readsBack content member)
  have plainFinite : ∀ content, .number content ∈ value.nodes →
      content.withoutMinusZero.isFinite = true := fun content member =>
    isFinite_withoutMinusZero (finite content member)
  refine ⟨_, write_mapNumbers sourceFree rereadFinite other, ?_⟩
  rw [withoutMinusZeros, write_mapNumbers sourceFree plainFinite]
  rw [chars_mapNumbers_congr value fun content member =>
    chars_of_readNumber (finite content member) (readsBack content member)]

def doublesSample : Value :=
  .record
    [("two words",
        .list
          [.number (.float (.finite true ⟨0, finiteRanks_pos⟩)),
            .number (.float (.finite false ⟨1086 * 2 ^ 52, by decide⟩))]),
      ("plain", .number (.float (.finite true ⟨1023 * 2 ^ 52 + 2 ^ 51, by decide⟩)))]

theorem exists_write_reread_doublesSample :
    ∃ text same, write 2 doublesSample = .ok text ∧ read text = .ok same ∧
      ∀ other, ∃ written, write other same = .ok written ∧
        write other doublesSample.withoutMinusZeros = .ok written := by
  refine exists_write_reread 2 doublesSample ?_ ?_ ?_
  · simp [IsSourceFree, doublesSample, nodes, itemNodes]
  · simp [HasFiniteNumbers, doublesSample, nodes, itemNodes, Number.isFinite, Binary64.isFinite]
  · simp [HasBuiltRecords, doublesSample, nodes, itemNodes, Record.isBuilt_iff_nodup_keys]

end Value

end EntitySchema
