import Mathlib
import EntitySchema.Number.Decimal
/-!
Rounding gives back what was exact: the magnitude of a rank rounds to that rank, and the shortest
decimal of a double reads as that double.
-/

namespace EntitySchema

theorem ranksPerExponent_eq : ranksPerExponent = 2 ^ 52 := rfl

theorem roundHalfEven_mul (quotient denominator : Nat) (positive : 0 < denominator) :
    roundHalfEven (quotient * denominator) denominator = quotient := by
  simp [roundHalfEven, Nat.mul_div_cancel quotient positive, positive]

namespace Binary64

/-! ## Ranks -/

/-- Above the ranks that share the smallest power, a significand has exactly 53 binary digits. -/
theorem significandOfRank_bounds (rank : Nat) (large : 2 ^ 53 ≤ rank) :
    2 ^ 52 ≤ significandOfRank rank ∧ significandOfRank rank < 2 ^ 53 := by
  simp only [significandOfRank, exponentOfRank, ranksPerExponent_eq]
  omega

theorem exponent_add_significand (rank : Nat) :
    exponentOfRank rank * ranksPerExponent + significandOfRank rank = rank := by
  simp only [significandOfRank, exponentOfRank, ranksPerExponent_eq]
  omega

theorem unitsOfRank_eq (rank : Nat) :
    unitsOfRank rank = significandOfRank rank * 2 ^ exponentOfRank rank := Nat.shiftLeft_eq ..

theorem exponentOfRank_of_small (rank : Nat) (small : rank < 2 ^ 53) : exponentOfRank rank = 0 := by
  simp only [exponentOfRank, ranksPerExponent_eq]
  omega

theorem unitsOfRank_of_small (rank : Nat) (small : rank < 2 ^ 53) : unitsOfRank rank = rank := by
  rw [unitsOfRank_eq, significandOfRank, exponentOfRank_of_small rank small, Nat.zero_mul,
    Nat.pow_zero, Nat.mul_one, Nat.sub_zero]

theorem log2_unitsOfRank_sub (rank : Nat) : (unitsOfRank rank).log2 - 52 = exponentOfRank rank := by
  by_cases small : rank < 2 ^ 53
  · rw [unitsOfRank_of_small rank small]
    rw [exponentOfRank_of_small rank small, Nat.sub_eq_zero_iff_le]
    by_cases zero : rank = 0
    · simp [zero]
    · exact Nat.le_of_lt_succ ((Nat.log2_lt zero).mpr small)
  · have bounds := significandOfRank_bounds rank (Nat.le_of_not_lt small)
    have nonzero : unitsOfRank rank ≠ 0 := by
      have powerPositive := Nat.two_pow_pos (exponentOfRank rank)
      rw [unitsOfRank_eq]
      exact Nat.ne_of_gt (Nat.mul_pos (by omega) powerPositive)
    have logarithm : (unitsOfRank rank).log2 = 52 + exponentOfRank rank := by
      apply (Nat.log2_eq_iff nonzero).mpr
      rw [unitsOfRank_eq, Nat.add_right_comm, Nat.pow_add, Nat.pow_add 2 (52 + 1)]
      constructor
      · exact Nat.mul_le_mul_right _ bounds.1
      · exact Nat.mul_lt_mul_of_pos_right bounds.2 (Nat.two_pow_pos _)
    omega

/-- A rank is nearest to its own magnitude, over whatever denominator that is written. -/
theorem nearestRank_unitsOfRank (rank scale : Nat) (positive : 0 < scale) :
    nearestRank (unitsOfRank rank * scale) scale = rank := by
  simp only [nearestRank]
  rw [Nat.mul_div_cancel _ positive, log2_unitsOfRank_sub, Nat.shiftLeft_eq scale]
  have scaled : unitsOfRank rank * scale =
      significandOfRank rank * (scale * 2 ^ exponentOfRank rank) := by
    rw [unitsOfRank_eq, Nat.mul_assoc, Nat.mul_comm scale]
  rw [scaled, roundHalfEven_mul _ _ (Nat.mul_pos positive (Nat.two_pow_pos _))]
  exact exponent_add_significand rank

theorem unitsOfRank_pos (rank : Nat) (positive : 0 < rank) : 0 < unitsOfRank rank := by
  by_cases small : rank < 2 ^ 53
  · rwa [unitsOfRank_of_small rank small]
  · have bounds := significandOfRank_bounds rank (Nat.le_of_not_lt small)
    rw [unitsOfRank_eq]
    exact Nat.mul_pos (by omega) (Nat.two_pow_pos _)

/-! ## Decimals -/

theorem ofUnits_of_unsigned {numerator denominator : Nat} {rank : Fin finiteRanks}
    (unsigned : ofUnits false numerator denominator = .finite false rank) (negative : Bool) :
    ofUnits negative numerator denominator = .finite negative rank := by
  simp only [ofUnits] at unsigned ⊢
  split at unsigned
  · next small =>
      rw [dif_pos small]
      injection unsigned with _ sameRank
      rw [sameRank]
  · cases unsigned

/-- The sign of a decimal is kept, and does not change how its magnitude is rounded. -/
theorem ofDecimal_of_unsigned {decimal : Decimal} {rank : Fin finiteRanks}
    (unsigned : ofDecimal false decimal = .finite false rank) (negative : Bool) :
    ofDecimal negative decimal = .finite negative rank := by
  unfold ofDecimal at unsigned ⊢
  split_ifs at unsigned ⊢ with noDigits large tiny whole
  · injection unsigned with _ sameRank
    rw [sameRank]
  · injection unsigned with _ sameRank
    rw [sameRank]
  · exact ofUnits_of_unsigned unsigned negative
  · exact ofUnits_of_unsigned unsigned negative

/-- Zeros written at the end of the digits do the same as an exponent. -/
theorem ofDecimal_whole {decimal : Decimal} {negative : Bool} {rank : Fin finiteRanks}
    (whole : 0 ≤ decimal.exponent) (finite : ofDecimal negative decimal = .finite negative rank) :
    ofDecimal negative
      { digits := decimal.digits * 10 ^ decimal.exponent.toNat, exponent := 0 } =
      .finite negative rank := by
  by_cases zero : decimal.digits = 0
  · simpa [ofDecimal, zero] using finite
  · have shifted : decimal.digits * 10 ^ decimal.exponent.toNat ≠ 0 :=
      Nat.mul_ne_zero zero (Nat.ne_of_gt (Nat.pow_pos (by decide)))
    have notTiny : ∀ exponent : Int, 0 ≤ exponent → ∀ size : Nat,
        ¬ exponent < -400 - (size : Int) := by omega
    have notLarge : ¬ decimal.exponent > 400 := by
      intro large
      simp [ofDecimal, zero, large] at finite
    rw [← finite]
    simp only [ofDecimal, zero, shifted, notLarge, whole, notTiny _ whole, notTiny 0 le_rfl,
      if_false, if_true]
    simp

theorem ofUnits_unitsOfRank (negative : Bool) (rank : Fin finiteRanks) (scale : Nat)
    (positive : 0 < scale) :
    ofUnits negative (unitsOfRank rank * scale) scale = .finite negative rank := by
  simp only [ofUnits, nearestRank_unitsOfRank rank scale positive, rank.isLt, dif_pos]

theorem exactDigits_mul_unitsPerOne (units : Nat) :
    Decimal.exactDigits units * unitsPerOne = units * 10 ^ 1074 := by
  unfold Decimal.exactDigits unitsPerOne
  generalize 1074 = places
  rw [Nat.one_shiftLeft, Nat.pow_eq, Nat.mul_assoc, ← Nat.mul_pow]

theorem le_log2_exactDigits (units : Nat) (positive : 0 < units) :
    1074 ≤ (Decimal.exactDigits units).log2 := by
  unfold Decimal.exactDigits
  generalize 1074 = places
  rw [Nat.pow_eq]
  have powers : 2 ^ places ≤ 5 ^ places := Nat.pow_le_pow_left (by decide) places
  have bound : 2 ^ places ≤ units * 5 ^ places :=
    powers.trans (Nat.le_mul_of_pos_left _ positive)
  have nonzero : units * 5 ^ places ≠ 0 :=
    Nat.ne_of_gt (Nat.lt_of_lt_of_le (Nat.two_pow_pos places) bound)
  exact (Nat.le_log2 nonzero).mpr bound

/-- The decimal that keeps all digits is the magnitude itself. -/
theorem ofDecimal_exact (rank : Fin finiteRanks) (positive : 0 < rank.val) :
    ofDecimal false (Decimal.exact (unitsOfRank rank)) = .finite false rank := by
  have logarithm := le_log2_exactDigits _ (unitsOfRank_pos rank positive)
  have nonzero : Decimal.exactDigits (unitsOfRank rank) ≠ 0 := by
    intro zero
    simp [zero] at logarithm
  have notLarge : ¬ (-1074 : Int) > 400 := by decide
  have notTiny :
      ¬ (-1074 : Int) < -400 - ((Decimal.exactDigits (unitsOfRank rank)).log2 : Int) := by
    omega
  have fractional : ¬ 0 ≤ (-1074 : Int) := by decide
  have places : (-(-1074 : Int)).toNat = 1074 := rfl
  simp only [ofDecimal, Decimal.exact, nonzero, notLarge, notTiny, fractional, if_false, places]
  rw [ofRatio, exactDigits_mul_unitsPerOne]
  generalize 1074 = places
  exact ofUnits_unitsOfRank false rank (10 ^ places) (Nat.pow_pos (by decide))

end Binary64

namespace Decimal

/-- The shortest decimal of a rank reads as the double of that rank. -/
theorem ofDecimal_shortest (tie : Tie) (rank : Fin finiteRanks) :
    Binary64.ofDecimal false (shortest tie rank) = .finite false rank := by
  unfold shortest
  split
  · next zero =>
      have sameRank : (⟨0, finiteRanks_pos⟩ : Fin finiteRanks) = rank := Fin.ext zero.symm
      simp [Binary64.ofDecimal, sameRank]
  · next nonzero =>
      -- Either one of the candidates passed the test of reading back, or all digits are kept.
      simp only
      generalize found : List.findSome? _ _ = result
      cases result with
      | none => exact Binary64.ofDecimal_exact rank (Nat.pos_of_ne_zero nonzero)
      | some decimal =>
          rcases List.exists_of_findSome?_eq_some found with ⟨count, _, accepted⟩
          simpa using List.find?_some accepted

end Decimal

end EntitySchema
