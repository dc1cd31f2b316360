import EntitySchema.Number.Decimal
/-!
The numbers of a model: whole numbers of 64 bits, and doubles. Two whole numbers compare exactly.
Any other pair compares as doubles.
-/

namespace EntitySchema

inductive Number where
  | int (value : Int64)
  | float (value : Binary64)
  deriving DecidableEq, Repr

namespace Number

def toBinary64 : Number → Binary64
  | .int value => Binary64.ofInt value.toInt
  | .float value => value

def equals : Number → Number → Bool
  | .int left, .int right => left == right
  | left, right => left.toBinary64.equals right.toBinary64

def lessThan : Number → Number → Bool
  | .int left, .int right => left < right
  | left, right => left.toBinary64.lessThan right.toBinary64

def isFinite : Number → Bool
  | .int _ => true
  | .float value => value.isFinite

def isIntegral : Number → Bool
  | .int _ => true
  | .float value => value.isIntegral

def chars : Number → List Char
  | .int value => signedDigits value.toInt
  | .float value => value.chars

def text (number : Number) : String := String.ofList number.chars

end Number

def inInt64Range (value : Int) : Bool :=
  -0x8000000000000000 ≤ value && value ≤ 0x7FFFFFFFFFFFFFFF

def int64OfInt? (value : Int) : Option Int64 :=
  if inInt64Range value then some (Int64.ofInt value) else none

inductive Literal where
  | text (value : String)
  | number (value : Number)
  deriving DecidableEq, Repr

namespace Literal

def equals : Literal → Literal → Bool
  | .text left, .text right => left == right
  | .number left, .number right => left.equals right
  | _, _ => false

def plainText : Literal → String
  | .text value => value
  | .number value => value.text

end Literal

end EntitySchema
