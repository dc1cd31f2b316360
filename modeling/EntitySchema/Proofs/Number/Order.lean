import Mathlib
import EntitySchema.Number.Basic
import EntitySchema.Proofs.Number.Rounding
/-!
The numbers that doubles stand for, and that comparing doubles compares those numbers.
-/

namespace EntitySchema

namespace Binary64

/-! ## Magnitudes -/

theorem unitsPerOne_eq : unitsPerOne = 2 ^ 1074 := by
  unfold unitsPerOne
  generalize 1074 = places
  exact Nat.one_shiftLeft places

theorem unitsPerOne_pos : 0 < unitsPerOne := by
  rw [unitsPerOne_eq]
  generalize 1074 = places
  exact Nat.two_pow_pos places

/-- Where the significand runs out, the next rank starts again at half of it with twice the
power. -/
theorem unitsOfRank_lt_succ (rank : Nat) : unitsOfRank rank < unitsOfRank (rank + 1) := by
  rw [unitsOfRank_eq, unitsOfRank_eq]
  have power := Nat.two_pow_pos (exponentOfRank rank)
  by_cases same : exponentOfRank (rank + 1) = exponentOfRank rank
  · have larger : significandOfRank rank < significandOfRank (rank + 1) := by
      rw [significandOfRank, significandOfRank, same]
      have whole := exponent_add_significand rank
      omega
    rw [same]
    exact Nat.mul_lt_mul_of_pos_right larger power
  · have carried : exponentOfRank (rank + 1) = exponentOfRank rank + 1 := by
      simp only [exponentOfRank, ranksPerExponent_eq] at same ⊢
      omega
    have larger : significandOfRank rank < significandOfRank (rank + 1) * 2 := by
      simp only [significandOfRank, exponentOfRank, ranksPerExponent_eq] at carried ⊢
      omega
    rw [carried, Nat.pow_succ', ← Nat.mul_assoc]
    exact Nat.mul_lt_mul_of_pos_right larger power

theorem strictMono_unitsOfRank : StrictMono unitsOfRank :=
  strictMono_nat_of_lt_succ unitsOfRank_lt_succ

theorem unitsOfRank_pos_iff (rank : Nat) : 0 < unitsOfRank rank ↔ 0 < rank := by
  have zero : unitsOfRank 0 = 0 := unitsOfRank_of_small 0 (by decide)
  rw [← zero]
  exact strictMono_unitsOfRank.lt_iff_lt

def signedUnits (negative : Bool) (rank : Nat) : ℤ :=
  if negative then -(unitsOfRank rank : ℤ) else unitsOfRank rank

theorem signedUnits_lt_iff {negative otherNegative : Bool} {rank otherRank : Nat} :
    signedUnits negative rank < signedUnits otherNegative otherRank ↔
      (if negative then -(rank : ℤ) else rank) <
        (if otherNegative then -(otherRank : ℤ) else otherRank) := by
  have less : unitsOfRank rank < unitsOfRank otherRank ↔ rank < otherRank :=
    strictMono_unitsOfRank.lt_iff_lt
  have greater : unitsOfRank otherRank < unitsOfRank rank ↔ otherRank < rank :=
    strictMono_unitsOfRank.lt_iff_lt
  have positive := unitsOfRank_pos_iff rank
  have otherPositive := unitsOfRank_pos_iff otherRank
  cases negative <;> cases otherNegative <;> simp [signedUnits] <;> omega

/-! ## Values -/

noncomputable def value? : Binary64 → Option EReal
  | .finite negative rank => some (((signedUnits negative rank / unitsPerOne : ℝ)) : EReal)
  | .infinite false => some ⊤
  | .infinite true => some ⊥
  | .nan => none

def IsBelow (left right : Binary64) : Prop :=
  ∃ lesser ∈ left.value?, ∃ greater ∈ right.value?, lesser < greater

theorem isBelow_finite_iff {negative otherNegative : Bool} {rank otherRank : Fin finiteRanks} :
    (finite negative rank).IsBelow (.finite otherNegative otherRank) ↔
      signedUnits negative rank < signedUnits otherNegative otherRank := by
  have unit : (0 : ℝ) < unitsPerOne := Nat.cast_pos.mpr unitsPerOne_pos
  simp only [IsBelow, value?, Option.mem_some_iff, exists_eq_left', EReal.coe_lt_coe_iff,
    div_lt_div_iff_of_pos_right unit, Int.cast_lt]

theorem lessThan_iff_isBelow (left right : Binary64) :
    left.lessThan right = true ↔ left.IsBelow right := by
  cases left with
  | nan => simp [lessThan, position?, IsBelow, value?]
  | infinite negative =>
      cases right with
      | nan => simp [lessThan, position?, IsBelow, value?]
      | infinite otherNegative =>
          have ranks := finiteRanks_pos
          cases negative <;> cases otherNegative <;> simp [lessThan, position?, IsBelow, value?]
          omega
      | finite otherNegative otherRank =>
          have inRange := otherRank.isLt
          cases negative <;> cases otherNegative <;> simp [lessThan, position?, IsBelow, value?]
          omega
  | finite negative rank =>
      cases right with
      | nan => simp [lessThan, position?, IsBelow, value?]
      | infinite otherNegative =>
          have inRange := rank.isLt
          cases negative <;> cases otherNegative <;> simp [lessThan, position?, IsBelow, value?]
          omega
      | finite otherNegative otherRank =>
          rw [isBelow_finite_iff, signedUnits_lt_iff]
          simp [lessThan, position?]

theorem isFinite_iff (double : Binary64) :
    double.isFinite = true ↔ ∃ real : ℝ, double.value? = some (real : EReal) := by
  cases double with
  | finite negative rank => simp [isFinite, value?]
  | infinite negative => cases negative <;> simp [isFinite, value?]
  | nan => simp [isFinite, value?]

theorem exists_signedUnits_eq_iff (negative : Bool) (rank : Nat) :
    (∃ whole : ℤ, signedUnits negative rank = whole * unitsPerOne) ↔
      unitsPerOne ∣ unitsOfRank rank := by
  rw [← Int.natCast_dvd_natCast]
  cases negative with
  | false => simp [signedUnits, Dvd.dvd, mul_comm]
  | true =>
      rw [← Int.dvd_neg]
      simp [signedUnits, Dvd.dvd, mul_comm]

theorem isIntegral_iff (double : Binary64) :
    double.isIntegral = true ↔ ∃ whole : ℤ, double.value? = some ((whole : ℝ) : EReal) := by
  cases double with
  | finite negative rank =>
      have unit : (unitsPerOne : ℝ) ≠ 0 := Nat.cast_ne_zero.mpr (Nat.ne_of_gt unitsPerOne_pos)
      rw [isIntegral, beq_iff_eq, ← Nat.dvd_iff_mod_eq_zero, ← exists_signedUnits_eq_iff negative]
      simp only [value?, Option.some.injEq, EReal.coe_eq_coe_iff, div_eq_iff unit]
      norm_cast
  | infinite negative => cases negative <;> simp [isIntegral, value?]
  | nan => simp [isIntegral, value?]

end Binary64

/-! ## Numbers -/

namespace Number

noncomputable def value? : Number → Option EReal
  | .int whole => some ((whole.toInt : ℝ) : EReal)
  | .float double => double.value?

/-- Two whole numbers compare exactly, and any other pair as doubles. -/
def IsBelow : Number → Number → Prop
  | .int left, .int right => left.toInt < right.toInt
  | left, right => left.toBinary64.IsBelow right.toBinary64

theorem lessThan_iff_isBelow (left right : Number) :
    left.lessThan right = true ↔ left.IsBelow right := by
  cases left <;> cases right <;>
    simp [lessThan, IsBelow, Binary64.lessThan_iff_isBelow, Int64.lt_iff_toInt_lt]

theorem isFinite_iff (number : Number) :
    number.isFinite = true ↔ ∃ real : ℝ, number.value? = some (real : EReal) := by
  cases number with
  | int whole => simp [isFinite, value?]
  | float double => exact double.isFinite_iff

theorem isIntegral_iff (number : Number) :
    number.isIntegral = true ↔ ∃ whole : ℤ, number.value? = some ((whole : ℝ) : EReal) := by
  cases number with
  | int whole => simp [isIntegral, value?]
  | float double => exact double.isIntegral_iff

end Number

end EntitySchema
