import EntitySchema.Number.Binary64
/-!
Decimal numbers and their relation to doubles.

A decimal reads as the double nearest to it. A double is written as a decimal with the fewest
digits that read back as the same double, and the nearest of those.
-/

namespace EntitySchema

/-- The number `digits * 10 ^ exponent`. -/
structure Decimal where
  digits : Nat
  exponent : Int
  deriving DecidableEq, Repr

/-! ## Digits -/

def isDigit (character : Char) : Bool := '0' ≤ character && character ≤ '9'

def digitValue (character : Char) : Nat := character.toNat - '0'.toNat

def valueOfDigits (digits : List Char) : Nat :=
  digits.foldl (fun value digit => 10 * value + digitValue digit) 0

example : valueOfDigits ['0', '4', '2'] = 42 := by decide

def decimalDigits (value : Nat) : List Char := Nat.toDigits 10 value

def signedDigits (value : Int) : List Char :=
  if value < 0 then '-' :: decimalDigits value.natAbs else decimalDigits value.natAbs

namespace Binary64

/-- The double nearest to a decimal. Exponents so large that the result is certain are answered
without computing the power of ten. -/
def ofDecimal (negative : Bool) (decimal : Decimal) : Binary64 :=
  if decimal.digits = 0 then .finite negative ⟨0, finiteRanks_pos⟩
  else if decimal.exponent > 400 then .infinite negative
  else if decimal.exponent < -400 - (decimal.digits.log2 : Int) then
    .finite negative ⟨0, finiteRanks_pos⟩
  else if 0 ≤ decimal.exponent then
    ofRatio negative (decimal.digits * Nat.pow 10 decimal.exponent.toNat) 1
  else
    ofRatio negative decimal.digits (Nat.pow 10 (-decimal.exponent).toNat)

end Binary64

namespace Decimal

/-! ## Reading -/

def takeSign : List Char → Bool × List Char
  | '-' :: rest => (true, rest)
  | '+' :: rest => (false, rest)
  | rest => (false, rest)

def takeFraction : List Char → List Char × List Char
  | '.' :: rest => (rest.takeWhile isDigit, rest.dropWhile isDigit)
  | rest => ([], rest)

def readExponent? : List Char → Option Int
  | [] => some 0
  | mark :: rest =>
    if mark = 'e' ∨ mark = 'E' then
      let (negative, digits) := takeSign rest
      if !digits.isEmpty && digits.all isDigit then
        some (if negative then -(valueOfDigits digits : Int) else valueOfDigits digits)
      else none
    else none

def read? (text : List Char) : Option Decimal :=
  let whole := text.takeWhile isDigit
  let (fraction, rest) := takeFraction (text.dropWhile isDigit)
  if whole.isEmpty && fraction.isEmpty then none
  else
    (readExponent? rest).map fun exponent =>
      { digits := valueOfDigits (whole ++ fraction), exponent := exponent - fraction.length }

/-! ## Writing -/

def positional (decimal : Decimal) : List Char :=
  let digits := decimalDigits decimal.digits
  if 0 ≤ decimal.exponent then
    digits ++ List.replicate decimal.exponent.toNat '0'
  else
    let places := (-decimal.exponent).toNat
    let padded := List.replicate (places + 1 - digits.length) '0' ++ digits
    let wholeLength := padded.length - places
    padded.take wholeLength ++ '.' :: padded.drop wholeLength

example : String.ofList (positional ⟨15, -1⟩) = "1.5" := by decide
example : String.ofList (positional ⟨15, -4⟩) = "0.0015" := by decide
example : String.ofList (positional ⟨15, 2⟩) = "1500" := by decide

inductive Tie where
  | upward
  | toEven
  deriving DecidableEq, Repr

def exactDigits (units : Nat) : Nat := units * Nat.pow 5 1074

/-- Every magnitude is exactly `exactDigits` over `10 ^ 1074`. -/
def exact (units : Nat) : Decimal := { digits := exactDigits units, exponent := -1074 }

/-- The two neighbours of a magnitude among the decimals that keep the leading digits of
`expansion` and drop `dropped` of them, and which of them is nearer. -/
def neighbours (expansion dropped : Nat) (tie : Tie) : List Decimal :=
  let step := Nat.pow 10 dropped
  let below : Decimal := { digits := expansion / step, exponent := (dropped : Int) - 1074 }
  let above : Decimal := { digits := expansion / step + 1, exponent := (dropped : Int) - 1074 }
  let excess := 2 * (expansion % step)
  let preferBelow :=
    excess < step ||
      (excess == step && match tie with
        | .upward => false
        | .toEven => below.digits % 2 == 0)
  if preferBelow then [below, above] else [above, below]

def simplifyPowerOfTen (count : Nat) (decimal : Decimal) : Decimal :=
  if decimal.digits = Nat.pow 10 count then
    { digits := 1, exponent := decimal.exponent + count }
  else decimal

/-- The decimal with the fewest digits that reads back as the double of the given rank, and the
nearest such one. The exact decimal reads back in any case. -/
def shortest (tie : Tie) (rank : Fin finiteRanks) : Decimal :=
  if rank.val = 0 then { digits := 0, exponent := 0 }
  else
    let units := Binary64.unitsOfRank rank
    let expansion := exactDigits units
    let length := (decimalDigits expansion).length
    let readsBack (candidate : Decimal) : Bool :=
      Binary64.ofDecimal false candidate == .finite false rank
    let shortestOfLength (count : Nat) : Option Decimal :=
      ((neighbours expansion (length - count) tie).map (simplifyPowerOfTen count)).find? readsBack
    ((List.range length).findSome? fun count => shortestOfLength (count + 1)).getD (exact units)

end Decimal

namespace Binary64

def read? (text : List Char) : Option Binary64 :=
  let (negative, magnitude) := Decimal.takeSign text
  match Decimal.read? magnitude with
  | some decimal => some (ofDecimal negative decimal)
  | none =>
    let word := String.ofList (magnitude.map Char.toLower)
    if word = "inf" ∨ word = "infinity" then some (.infinite negative)
    else if word = "nan" then some .nan
    else none

/-- The shortest digits that read back, never with an exponent and without a fraction of zero. -/
def chars : Binary64 → List Char
  | .finite negative rank =>
    let magnitude := (Decimal.shortest .upward rank).positional
    if negative then '-' :: magnitude else magnitude
  | .infinite false => ['i', 'n', 'f']
  | .infinite true => ['-', 'i', 'n', 'f']
  | .nan => ['N', 'a', 'N']

def text (value : Binary64) : String := String.ofList value.chars

end Binary64

end EntitySchema
