import Mathlib
import EntitySchema.Proofs.Number.Order
/-!
Which numbers are too large for a double.

The limit lies half way between the largest finite magnitude and the next power of two. What is
below it rounds to a finite double. The limit itself goes to the even significand, which is that
power of two, so it is too large already.
-/

namespace EntitySchema

/-- Rounding stays below an even number just as long as the quotient is more than a half below
it. -/
theorem roundHalfEven_lt_iff (numerator : Nat) {denominator : Nat} (positive : 0 < denominator)
    {limit : Nat} (even : limit % 2 = 0) :
    roundHalfEven numerator denominator < limit ↔
      2 * numerator + denominator < 2 * (limit * denominator) := by
  have split := Nat.div_add_mod numerator denominator
  have small := Nat.mod_lt numerator positive
  simp only [roundHalfEven]
  generalize numerator / denominator = quotient at split ⊢
  generalize numerator % denominator = remainder at split small ⊢
  rcases lt_trichotomy (quotient + 1) limit with below | rfl | above
  · have enough : (quotient + 2) * denominator ≤ limit * denominator :=
      Nat.mul_le_mul_right _ below
    rw [Nat.add_mul, Nat.mul_comm quotient] at enough
    split_ifs <;> omega
  · rw [Nat.add_mul, Nat.mul_comm quotient]
    split_ifs <;> omega
  · have tooMuch : limit * denominator ≤ quotient * denominator :=
      Nat.mul_le_mul_right _ (Nat.le_of_lt_succ above)
    rw [Nat.mul_comm quotient] at tooMuch
    split_ifs <;> omega

namespace Binary64

/-- The exponent of a magnitude brackets it: its significand has at most 53 binary digits, and all
of them unless the exponent is the smallest one. -/
theorem lt_significand_mul {numerator denominator exponent : Nat} (positive : 0 < denominator)
    (scale : (numerator / denominator).log2 - 52 = exponent) :
    numerator < 2 ^ 53 * (denominator * 2 ^ exponent) := by
  have large : numerator / denominator < 2 ^ (53 + exponent) :=
    Nat.lt_log2_self.trans_le (Nat.pow_le_pow_right (by decide) (by omega))
  rw [Nat.div_lt_iff_lt_mul positive, Nat.pow_add] at large
  calc numerator < 2 ^ 53 * 2 ^ exponent * denominator := large
    _ = 2 ^ 53 * (denominator * 2 ^ exponent) := by ring

theorem significand_mul_le {numerator denominator exponent : Nat} (positive : 0 < denominator)
    (scale : (numerator / denominator).log2 - 52 = exponent) (normal : 0 < exponent) :
    2 ^ 52 * (denominator * 2 ^ exponent) ≤ numerator := by
  have nonzero : numerator / denominator ≠ 0 := by
    intro zero
    rw [zero, Nat.log2_zero] at scale
    omega
  have small : 2 ^ (52 + exponent) ≤ numerator / denominator :=
    (Nat.pow_le_pow_right (by decide) (by omega)).trans (Nat.log2_self_le nonzero)
  rw [Nat.le_div_iff_mul_le positive, Nat.pow_add] at small
  calc 2 ^ 52 * (denominator * 2 ^ exponent) = 2 ^ 52 * 2 ^ exponent * denominator := by ring
    _ ≤ numerator := small

/-- A magnitude has a rank of one of the exponents up to `last + 1` if it is below the limit. Only
at that exponent does the rounding decide. -/
theorem nearestRank_lt_iff {numerator denominator : Nat} (positive : 0 < denominator)
    (last : Nat) :
    nearestRank numerator denominator < (last + 3) * ranksPerExponent ↔
      numerator < (2 ^ 54 - 1) * (denominator * 2 ^ last) := by
  simp only [nearestRank, Nat.shiftLeft_eq, ranksPerExponent_eq]
  generalize scale : (numerator / denominator).log2 - 52 = exponent
  have upper := lt_significand_mul positive scale
  have lower := significand_mul_le positive scale
  have stepPositive : 0 < denominator * 2 ^ exponent := Nat.mul_pos positive (Nat.two_pow_pos _)
  rcases lt_trichotomy exponent (last + 1) with below | rfl | above
  · have rounded : roundHalfEven numerator (denominator * 2 ^ exponent) < 2 ^ 53 + 2 := by
      rw [roundHalfEven_lt_iff numerator stepPositive (by decide)]
      omega
    have steps : denominator * 2 ^ exponent ≤ denominator * 2 ^ last :=
      Nat.mul_le_mul_left _ (Nat.pow_le_pow_right (by decide) (Nat.le_of_lt_succ below))
    constructor <;> intro _ <;> omega
  · have rounded := roundHalfEven_lt_iff numerator stepPositive (show 2 ^ 53 % 2 = 0 by decide)
    have steps : denominator * 2 ^ (last + 1) = 2 * (denominator * 2 ^ last) := by
      ring
    rw [steps] at rounded ⊢
    omega
  · have rounded := roundHalfEven_lt_iff numerator stepPositive (show 2 ^ 52 % 2 = 0 by decide)
    have steps : denominator * 2 ^ (last + 2) ≤ denominator * 2 ^ exponent :=
      Nat.mul_le_mul_left _ (Nat.pow_le_pow_right (by decide) above)
    have doubled : denominator * 2 ^ (last + 2) = 4 * (denominator * 2 ^ last) := by
      ring
    have large := lower (by omega)
    omega

theorem isFinite_ofUnits_iff (negative : Bool) (numerator denominator : Nat) :
    (ofUnits negative numerator denominator).isFinite = true ↔
      nearestRank numerator denominator < finiteRanks := by
  simp only [ofUnits]
  split
  · next finite => simp [isFinite, finite]
  · next tooLarge => simp [isFinite, tooLarge]

/-- The least magnitude that is too large, half way between the largest finite one and
`2 ^ 1024`. -/
def overflowBound : ℚ := 2 ^ 1024 - 2 ^ 970

theorem overflowBound_eq : overflowBound = 18014398509481983 * 2 ^ 970 := by
  rw [overflowBound, show 1024 = 54 + 970 from rfl, pow_add]
  generalize (2 : ℚ) ^ 970 = unit
  linarith

theorem isFinite_ofRatio_iff (negative : Bool) (numerator : Nat) {denominator : Nat}
    (positive : 0 < denominator) :
    (ofRatio negative numerator denominator).isFinite = true ↔
      (numerator : ℚ) / denominator < overflowBound := by
  have ranks : finiteRanks = (970 + 1074 + 3) * ranksPerExponent := rfl
  have limit : ∀ top places, (2 ^ 54 - 1) * (denominator * 2 ^ (top + places)) =
      18014398509481983 * 2 ^ top * denominator * 2 ^ places := by
    intro top places
    ring
  rw [ofRatio, isFinite_ofUnits_iff, ranks, nearestRank_lt_iff positive, limit, unitsPerOne_eq,
    Nat.mul_lt_mul_right (Nat.two_pow_pos 1074)]
  rw [overflowBound_eq, div_lt_iff₀ (Nat.cast_pos.mpr positive)]
  exact_mod_cast Iff.rfl

end Binary64

/-! ## Decimals -/

namespace Decimal

def value (decimal : Decimal) : ℚ := decimal.digits * 10 ^ decimal.exponent

/-- The exponent makes up for every binary digit, so it does for every decimal one. -/
theorem value_lt_one {decimal : Decimal}
    (tiny : decimal.exponent < -400 - (decimal.digits.log2 : ℤ)) : decimal.value < 1 := by
  have digits : (decimal.digits : ℚ) < 10 ^ (-decimal.exponent) :=
    calc (decimal.digits : ℚ) < 2 ^ (decimal.digits.log2 + 1) := by
          exact_mod_cast Nat.lt_log2_self
      _ ≤ 10 ^ (decimal.digits.log2 + 1) := pow_le_pow_left₀ (by norm_num) (by norm_num) _
      _ = 10 ^ ((decimal.digits.log2 + 1 : ℕ) : ℤ) := (zpow_natCast ..).symm
      _ ≤ 10 ^ (-decimal.exponent) := zpow_le_zpow_right₀ (by norm_num) (by omega)
  calc decimal.value < 10 ^ (-decimal.exponent) * 10 ^ decimal.exponent :=
        mul_lt_mul_of_pos_right digits (zpow_pos (by norm_num) _)
    _ = 1 := zpow_neg_mul_zpow_self _ (by norm_num)

end Decimal

namespace Binary64

theorem overflowBound_le : overflowBound ≤ 10 ^ 400 :=
  calc overflowBound ≤ 2 ^ 1024 := sub_le_self _ (pow_nonneg (by norm_num) _)
    _ ≤ 2 ^ (3 * 400) := pow_le_pow_right₀ (by norm_num) (by norm_num)
    _ = (2 ^ 3) ^ 400 := pow_mul 2 3 400
    _ ≤ 10 ^ 400 := pow_le_pow_left₀ (by norm_num) (by norm_num) _

theorem two_pow_le_overflowBound : 2 ^ 64 ≤ overflowBound := by
  rw [overflowBound_eq]
  calc (2 : ℚ) ^ 64 ≤ 2 ^ 970 := pow_le_pow_right₀ (by norm_num) (by norm_num)
    _ ≤ 18014398509481983 * 2 ^ 970 :=
        le_mul_of_one_le_left (pow_nonneg (by norm_num) _) (by norm_num)

theorem one_le_overflowBound : 1 ≤ overflowBound :=
  le_trans (by norm_num) two_pow_le_overflowBound

theorem overflowBound_le_value {decimal : Decimal} (nonzero : decimal.digits ≠ 0)
    (large : 400 < decimal.exponent) : overflowBound ≤ decimal.value := by
  have one : (1 : ℚ) ≤ decimal.digits := Nat.one_le_cast.mpr (Nat.pos_of_ne_zero nonzero)
  have power : (10 : ℚ) ^ (400 : ℤ) ≤ 10 ^ decimal.exponent :=
    zpow_le_zpow_right₀ (by norm_num) large.le
  calc overflowBound ≤ 10 ^ (400 : ℤ) := overflowBound_le
    _ ≤ 10 ^ decimal.exponent := power
    _ ≤ decimal.value := le_mul_of_one_le_left (zpow_nonneg (by norm_num) _) one

/-- A decimal reads as a finite double if it is below the limit, whatever its digits and its
exponent are. -/
theorem isFinite_ofDecimal_iff (negative : Bool) (decimal : Decimal) :
    (ofDecimal negative decimal).isFinite = true ↔ decimal.value < overflowBound := by
  unfold ofDecimal
  split_ifs with noDigits large tiny whole
  · have zero : decimal.value < overflowBound := by
      rw [Decimal.value, noDigits, Nat.cast_zero, zero_mul]
      exact zero_lt_one.trans_le one_le_overflowBound
    simp [isFinite, zero]
  · simp [isFinite, overflowBound_le_value noDigits large]
  · simp [isFinite, (Decimal.value_lt_one tiny).trans_le one_le_overflowBound]
  · have power : (10 : ℚ) ^ decimal.exponent = 10 ^ decimal.exponent.toNat := by
      rw [← zpow_natCast, Int.toNat_of_nonneg whole]
    rw [isFinite_ofRatio_iff negative _ Nat.one_pos, Decimal.value, power]
    simp
  · have power : (10 : ℚ) ^ decimal.exponent = (10 ^ (-decimal.exponent).toNat)⁻¹ := by
      rw [← zpow_natCast, Int.toNat_of_nonneg (by omega), zpow_neg, inv_inv]
    rw [Nat.pow_eq, isFinite_ofRatio_iff negative _ (Nat.pow_pos (by decide)), Decimal.value, power]
    simp [div_eq_mul_inv]

end Binary64

end EntitySchema
