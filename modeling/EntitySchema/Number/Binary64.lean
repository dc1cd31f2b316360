/-!
Double-precision numbers in exact arithmetic.

A finite number is a sign and a rank. Ranks count the finite magnitudes from zero upwards, so
comparing ranks compares magnitudes. Every finite magnitude is a whole number of units, where a
unit is the smallest positive magnitude and `unitsPerOne` of them make one.
-/

namespace EntitySchema

/-- The number of magnitudes of one exponent: a significand has 52 bits after its leading one. -/
def ranksPerExponent : Nat := 1 <<< 52

def finiteRanks : Nat := 2047 * ranksPerExponent

theorem finiteRanks_pos : 0 < finiteRanks := by decide

inductive Binary64 where
  | finite (negative : Bool) (rank : Fin finiteRanks)
  | infinite (negative : Bool)
  | nan
  deriving DecidableEq, Repr

def roundHalfEven (numerator denominator : Nat) : Nat :=
  let quotient := numerator / denominator
  let remainder := numerator % denominator
  if 2 * remainder < denominator ∨ (2 * remainder = denominator ∧ quotient % 2 = 0) then
    quotient
  else
    quotient + 1

example : [roundHalfEven 5 2, roundHalfEven 7 2, roundHalfEven 8 3] = [2, 4, 3] := by decide

namespace Binary64

def unitsPerOne : Nat := 1 <<< 1074

/-! ## Ranks and magnitudes -/

/-- The power of two that scales the significand of a rank. The ranks below `2 ^ 53` share the
smallest power. -/
def exponentOfRank (rank : Nat) : Nat := rank / ranksPerExponent - 1

def significandOfRank (rank : Nat) : Nat := rank - exponentOfRank rank * ranksPerExponent

def unitsOfRank (rank : Nat) : Nat := significandOfRank rank <<< exponentOfRank rank

/-- The rank whose magnitude is nearest to the given number of units, a half going to the even
significand. A significand that rounds up to `2 ^ 53` lands on the first rank of the next power,
so no renormalisation is needed. -/
def nearestRank (numerator denominator : Nat) : Nat :=
  let exponent := (numerator / denominator).log2 - 52
  exponent * ranksPerExponent + roundHalfEven numerator (denominator <<< exponent)

/-- The nearest double to a number of units. What rounds past the last finite rank is infinite. -/
def ofUnits (negative : Bool) (numerator denominator : Nat) : Binary64 :=
  let rank := nearestRank numerator denominator
  if finite : rank < finiteRanks then .finite negative ⟨rank, finite⟩ else .infinite negative

def ofRatio (negative : Bool) (numerator denominator : Nat) : Binary64 :=
  ofUnits negative (numerator * unitsPerOne) denominator

def ofInt (value : Int) : Binary64 := ofRatio (value < 0) value.natAbs 1

def zero : Binary64 := .finite false ⟨0, finiteRanks_pos⟩

/-! ## Comparison -/

/-- The place of a number in the order of all numbers, the infinities at the ends. The two zeros
share a place, and what is not a number has none. -/
def position? : Binary64 → Option Int
  | .finite negative rank => some (if negative then -(rank.val : Int) else rank.val)
  | .infinite negative => some (if negative then -(finiteRanks : Int) else finiteRanks)
  | .nan => none

/-- Numeric equality: the zeros are equal, and `nan` equals nothing. -/
def equals (left right : Binary64) : Bool :=
  match left.position?, right.position? with
  | some leftPosition, some rightPosition => leftPosition == rightPosition
  | _, _ => false

def lessThan (left right : Binary64) : Bool :=
  match left.position?, right.position? with
  | some leftPosition, some rightPosition => leftPosition < rightPosition
  | _, _ => false

def isFinite : Binary64 → Bool
  | .finite .. => true
  | _ => false

def isIntegral : Binary64 → Bool
  | .finite _ rank => unitsOfRank rank % unitsPerOne == 0
  | _ => false

/-! ## Scaling -/

def productOfUnits (negative : Bool) (left right : Nat) : Binary64 :=
  ofUnits negative (left * right) unitsPerOne

def quotientOfUnits (negative : Bool) (dividend divisor : Nat) : Binary64 :=
  ofUnits negative (dividend * unitsPerOne) divisor

/-- The interchange encoding: sign, then exponent and fraction, which together are the rank. -/
def toBits : Binary64 → Nat
  | .finite negative rank => (if negative then 1 <<< 63 else 0) + rank.val
  | .infinite negative => (if negative then 1 <<< 63 else 0) + finiteRanks
  | .nan => finiteRanks + (1 <<< 51)

end Binary64

end EntitySchema
