import Mathlib
import EntitySchema.Proofs.Number.Order
/-!
Equality of numbers.

Two whole numbers are compared exactly, and any other pair as doubles. Up to `2 ^ 53` a double holds
every whole number, so there equality is that of the numbers themselves. Beyond, two different whole
numbers may round to the same double and both equal it, and that is where transitivity ends.
-/

namespace EntitySchema

namespace Binary64

/-! ## Doubles -/

theorem equals_iff_position? {left right : Binary64} :
    left.equals right = true ↔
      ∃ position, left.position? = some position ∧ right.position? = some position := by
  unfold equals
  cases left.position? with
  | none => simp
  | some position => cases right.position? <;> simp [eq_comm (a := position)]

theorem equals_comm (left right : Binary64) : left.equals right = right.equals left := by
  rw [Bool.eq_iff_iff, equals_iff_position?, equals_iff_position?]
  simp only [and_comm]

theorem equals_trans {first second third : Binary64} (equal : first.equals second = true)
    (equalNext : second.equals third = true) : first.equals third = true := by
  rw [equals_iff_position?] at equal equalNext ⊢
  rcases equal with ⟨position, ofFirst, ofSecond⟩
  rcases equalNext with ⟨other, ofSecondToo, ofThird⟩
  rw [Option.some.inj (ofSecondToo.symm.trans ofSecond)] at ofThird
  exact ⟨position, ofFirst, ofThird⟩

theorem ofInt_equals_self (whole : Int) : (ofInt whole).equals (ofInt whole) = true := by
  rw [equals_iff_position?, ofInt, ofRatio, ofUnits]
  split <;> simp [position?]

theorem signedUnits_eq_iff {negative otherNegative : Bool} {rank otherRank : Nat} :
    signedUnits negative rank = signedUnits otherNegative otherRank ↔
      (if negative then -(rank : ℤ) else rank) =
        (if otherNegative then -(otherRank : ℤ) else otherRank) := by
  simp only [le_antisymm_iff, ← not_lt, signedUnits_lt_iff]

/-- Doubles are equal if they stand for the same number. -/
theorem equals_iff_value? {left right : Binary64} :
    left.equals right = true ↔ ∃ value, left.value? = some value ∧ right.value? = some value := by
  rw [equals_iff_position?]
  cases left with
  | nan => simp [position?, value?]
  | infinite negative =>
      cases right with
      | nan => simp [position?, value?]
      | infinite otherNegative =>
          have ranks := finiteRanks_pos
          cases negative <;> cases otherNegative <;> simp [position?, value?] <;> omega
      | finite otherNegative otherRank =>
          have inRange := otherRank.isLt
          cases negative <;> cases otherNegative <;> simp [position?, value?] <;> omega
  | finite negative rank =>
      cases right with
      | nan => simp [position?, value?]
      | infinite otherNegative =>
          have inRange := rank.isLt
          cases negative <;> cases otherNegative <;> simp [position?, value?] <;> omega
      | finite otherNegative otherRank =>
          have unit : (unitsPerOne : ℝ) ≠ 0 := Nat.cast_ne_zero.mpr (Nat.ne_of_gt unitsPerOne_pos)
          have sameUnits :
              (signedUnits negative rank / unitsPerOne : ℝ) =
                  signedUnits otherNegative otherRank / unitsPerOne ↔
                signedUnits negative rank = signedUnits otherNegative otherRank := by
            rw [div_left_inj' unit, Int.cast_inj]
          simp [position?, value?, eq_comm, ← signedUnits_eq_iff, ← sameUnits]

/-! ## Whole numbers that a double holds -/

theorem unitsOfRank_normal (power : Nat) {significand : Nat} (large : 2 ^ 52 ≤ significand)
    (small : significand < 2 ^ 53) :
    unitsOfRank (power * ranksPerExponent + significand) = significand * 2 ^ power := by
  have exponent : exponentOfRank (power * ranksPerExponent + significand) = power := by
    simp only [exponentOfRank, ranksPerExponent_eq]
    omega
  rw [unitsOfRank_eq, significandOfRank, exponent, Nat.add_sub_cancel_left]

theorem exists_rank_of_lt {whole : Nat} (positive : 0 < whole) (small : whole < 2 ^ 53) :
    ∃ rank : Fin finiteRanks, unitsOfRank rank = whole * unitsPerOne := by
  -- The leading one of the number becomes that of the significand.
  have digits : whole.log2 < 53 := (Nat.log2_lt (Nat.ne_of_gt positive)).mpr small
  have lower : 2 ^ whole.log2 ≤ whole := Nat.log2_self_le (Nat.ne_of_gt positive)
  have upper : whole < 2 ^ (whole.log2 + 1) := Nat.lt_log2_self
  generalize whole.log2 = leading at digits lower upper
  have large : 2 ^ 52 ≤ whole * 2 ^ (52 - leading) :=
    calc 2 ^ 52 = 2 ^ leading * 2 ^ (52 - leading) := by rw [← Nat.pow_add]; congr 1; omega
      _ ≤ whole * 2 ^ (52 - leading) := Nat.mul_le_mul_right _ lower
  have bounded : whole * 2 ^ (52 - leading) < 2 ^ 53 :=
    calc whole * 2 ^ (52 - leading) < 2 ^ (leading + 1) * 2 ^ (52 - leading) :=
          Nat.mul_lt_mul_of_pos_right upper (Nat.two_pow_pos _)
      _ = 2 ^ 53 := by rw [← Nat.pow_add]; congr 1; omega
  have inRange : (1022 + leading) * ranksPerExponent + whole * 2 ^ (52 - leading) <
      finiteRanks := by
    simp only [finiteRanks, ranksPerExponent_eq]
    omega
  refine ⟨⟨_, inRange⟩, ?_⟩
  rw [unitsOfRank_normal _ large bounded, unitsPerOne_eq, Nat.mul_assoc, ← Nat.pow_add]
  congr 2
  omega

theorem exists_rank_of_le {whole : Nat} (small : whole ≤ 2 ^ 53) :
    ∃ rank : Fin finiteRanks, unitsOfRank rank = whole * unitsPerOne := by
  rcases Nat.eq_zero_or_pos whole with rfl | positive
  · exact ⟨⟨0, finiteRanks_pos⟩, by simpa using unitsOfRank_of_small 0 (by decide)⟩
  rcases Nat.lt_or_eq_of_le small with below | rfl
  · exact exists_rank_of_lt positive below
  · have inRange : (1074 + 1) * ranksPerExponent + 2 ^ 52 < finiteRanks := by
      simp only [finiteRanks, ranksPerExponent_eq]
      omega
    refine ⟨⟨_, inRange⟩, ?_⟩
    rw [unitsOfRank_normal _ le_rfl (by decide), unitsPerOne_eq]
    generalize 1074 = places
    ring

/-- Up to `2 ^ 53` nothing is lost. -/
theorem value?_ofInt {whole : Int} (small : whole.natAbs ≤ 2 ^ 53) :
    (ofInt whole).value? = some ((whole : ℝ) : EReal) := by
  rcases exists_rank_of_le small with ⟨rank, units⟩
  have exact := ofUnits_unitsOfRank (whole < 0) rank 1 Nat.one_pos
  rw [Nat.mul_one, units] at exact
  have unit : (unitsPerOne : ℝ) ≠ 0 := Nat.cast_ne_zero.mpr (Nat.ne_of_gt unitsPerOne_pos)
  have signed : signedUnits (whole < 0) rank = whole * unitsPerOne := by
    rw [signedUnits, units]
    push_cast
    by_cases negative : whole < 0
    · simp [negative, abs_of_neg negative]
    · simp [negative, abs_of_nonneg (not_lt.mp negative)]
  rw [ofInt, ofRatio, exact, value?, signed]
  push_cast
  rw [mul_div_cancel_right₀ _ unit]

end Binary64

/-! ## Numbers -/

namespace Number

def AreDistinctInts (left right : Number) : Prop :=
  ∃ whole other : Int64, left = .int whole ∧ right = .int other ∧ whole ≠ other

/-- A whole number that a double is sure to hold, or a double. -/
def IsExact : Number → Prop
  | .int whole => whole.toInt.natAbs ≤ 2 ^ 53
  | .float _ => True

theorem AreDistinctInts.symm {left right : Number} (distinct : left.AreDistinctInts right) :
    right.AreDistinctInts left := by
  rcases distinct with ⟨whole, other, rfl, rfl, different⟩
  exact ⟨other, whole, rfl, rfl, different.symm⟩

theorem areDistinctInts_comm {left right : Number} :
    left.AreDistinctInts right ↔ right.AreDistinctInts left :=
  ⟨AreDistinctInts.symm, AreDistinctInts.symm⟩

/-- Numbers are equal if they are equal as doubles, unless both are whole. -/
theorem equals_iff {left right : Number} :
    left.equals right = true ↔
      left.toBinary64.equals right.toBinary64 = true ∧ ¬left.AreDistinctInts right := by
  cases left with
  | float double => simp [equals, AreDistinctInts, toBinary64]
  | int whole =>
      cases right with
      | float double => simp [equals, AreDistinctInts, toBinary64]
      | int other =>
          by_cases same : whole = other
          · subst same
            simp [equals, AreDistinctInts, toBinary64, Binary64.ofInt_equals_self]
          · simp [equals, AreDistinctInts, same]

theorem equals_comm (left right : Number) : left.equals right = right.equals left := by
  rw [Bool.eq_iff_iff, equals_iff, equals_iff, Binary64.equals_comm, areDistinctInts_comm]

/-- Numbers that equal the same number are equal as doubles. -/
theorem toBinary64_equals_of_between {first second third : Number}
    (equal : first.equals second = true) (equalNext : second.equals third = true) :
    first.toBinary64.equals third.toBinary64 = true :=
  Binary64.equals_trans (equals_iff.mp equal).1 (equals_iff.mp equalNext).1

theorem equals_iff_of_between {first second third : Number} (equal : first.equals second = true)
    (equalNext : second.equals third = true) :
    first.equals third = true ↔ ¬first.AreDistinctInts third := by
  rw [equals_iff]
  exact and_iff_right (toBinary64_equals_of_between equal equalNext)

theorem exists_between_iff (whole other : Int64) :
    (∃ between : Number, (int whole).equals between = true ∧
        between.equals (.int other) = true) ↔
      (Binary64.ofInt whole.toInt).equals (Binary64.ofInt other.toInt) = true := by
  constructor
  · intro joined
    rcases joined with ⟨between, equal, equalNext⟩
    have rounded := toBinary64_equals_of_between equal equalNext
    rwa [toBinary64, toBinary64] at rounded
  · intro equal
    -- The double that the first one rounds to lies between them.
    exact ⟨.float (Binary64.ofInt whole.toInt), Binary64.ofInt_equals_self _, equal⟩

theorem toBinary64_value? {number : Number} (exact : number.IsExact) :
    number.toBinary64.value? = number.value? := by
  cases number with
  | int whole => exact Binary64.value?_ofInt exact
  | float double => rfl

/-- Exact numbers are equal if they are the same number. -/
theorem equals_iff_value? {left right : Number} (leftExact : left.IsExact)
    (rightExact : right.IsExact) :
    left.equals right = true ↔ ∃ value, left.value? = some value ∧ right.value? = some value := by
  rw [equals_iff, Binary64.equals_iff_value?, toBinary64_value? leftExact,
    toBinary64_value? rightExact, and_iff_left_iff_imp]
  intro sameValue distinct
  rcases sameValue with ⟨value, ofLeft, ofRight⟩
  rcases distinct with ⟨whole, other, rfl, rfl, different⟩
  have same := ofLeft.trans ofRight.symm
  simp only [value?, Option.some.injEq, EReal.coe_eq_coe_iff, Int.cast_inj] at same
  exact different (Int64.toInt_inj.mp same)

/-- Between exact numbers equality is transitive, whatever number is between them. -/
theorem equals_of_between {first second third : Number} (firstExact : first.IsExact)
    (thirdExact : third.IsExact) (equal : first.equals second = true)
    (equalNext : second.equals third = true) : first.equals third = true := by
  rw [equals_iff_value? firstExact thirdExact, ← toBinary64_value? firstExact,
    ← toBinary64_value? thirdExact, ← Binary64.equals_iff_value?]
  exact toBinary64_equals_of_between equal equalNext

end Number

end EntitySchema
