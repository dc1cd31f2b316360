/-!
Classes of characters given by ranges of code points.

The ranges of a class are in ascending order and do not touch each other. The surrogates between
`0xD7FF` and `0xE000` belong to no character, and steps from one code point to the next skip them.
-/

namespace EntitySchema

/-- Ranges of code points, both ends included. -/
abbrev CodeRanges := List (Nat × Nat)

namespace CodeRanges

def maxCode : Nat := 0x10FFFF

def all : CodeRanges := [(0, maxCode)]

def single (code : Nat) : CodeRanges := [(code, code)]

/-- Ranges in ascending order need not be looked at beyond the code point. -/
def containsCode : CodeRanges → Nat → Bool
  | [], _ => false
  | (first, last) :: rest, code =>
    if code < first then false else code ≤ last || containsCode rest code

def contains (ranges : CodeRanges) (character : Char) : Bool :=
  ranges.containsCode character.toNat

/-! ## Operations -/

def nextCode (code : Nat) : Nat := if code = 0xD7FF then 0xE000 else code + 1

def previousCode (code : Nat) : Nat := if code = 0xE000 then 0xD7FF else code - 1

def join : CodeRanges → CodeRanges
  | [] => []
  | range :: rest => joinOnto range rest
where
  joinOnto (range : Nat × Nat) : CodeRanges → CodeRanges
    | [] => [range]
    | next :: rest =>
      if next.1 ≤ range.2 + 1 then joinOnto (range.1, max range.2 next.2) rest
      else range :: joinOnto next rest

def normalize (ranges : CodeRanges) : CodeRanges :=
  join (ranges.mergeSort fun left right => left.1 ≤ right.1)

def union (left right : CodeRanges) : CodeRanges := normalize (left ++ right)

def unions (classes : List CodeRanges) : CodeRanges := normalize classes.flatten

def complementFrom (start : Nat) : CodeRanges → CodeRanges
  | [] => if start ≤ maxCode then [(start, maxCode)] else []
  | (first, last) :: rest =>
    let others := complementFrom (nextCode last) rest
    if start < first then (start, previousCode first) :: others else others

def complement (ranges : CodeRanges) : CodeRanges := complementFrom 0 ranges

def complementIf (negated : Bool) (ranges : CodeRanges) : CodeRanges :=
  if negated then ranges.complement else ranges

def difference (left right : CodeRanges) : CodeRanges :=
  complement (union left.complement right)

def intersection (left right : CodeRanges) : CodeRanges :=
  complement (union left.complement right.complement)

def symmetricDifference (left right : CodeRanges) : CodeRanges :=
  (union left right).difference (left.intersection right)

example : complement [(0, 9), (0x41, 0x5A)] = [(10, 0x40), (0x5B, maxCode)] := by decide
example : complement [(0, 0xD7FF)] = [(0xE000, maxCode)] := by decide

/-! ## Tables -/

def tableDigit (character : Char) : Nat :=
  if character ≤ '9' then character.toNat - '0'.toNat else character.toNat - 'A'.toNat + 10

/-- Reads ranges in hexadecimal digits with blanks between them, such as `41-5A 5F 61-7A`. What has
been read of a range is given: its start, if that is complete, and the number so far. -/
def readTable : Option (Option Nat × Nat) → List Char → CodeRanges
  | none, [] => []
  | some (first, value), [] => [(first.getD value, value)]
  | none, character :: rest =>
    if character = ' ' ∨ character = '\n' then readTable none rest
    else readTable (some (none, tableDigit character)) rest
  | some (first, value), character :: rest =>
    if character = ' ' ∨ character = '\n' then (first.getD value, value) :: readTable none rest
    else if character = '-' then readTable (some (some value, 0)) rest
    else readTable (some (first, 16 * value + tableDigit character)) rest

def ofTable (text : String) : CodeRanges := readTable none text.toList

example : ofTable "41-5A 5F" = [(0x41, 0x5A), (0x5F, 0x5F)] := by decide +kernel

end CodeRanges

/-- Classes that go by several names, with their ranges as text. -/
abbrev RangeTable := List (List String × String)

namespace RangeTable

def entry? (table : RangeTable) (name : String) : Option (List String × String) :=
  table.find? fun entry => entry.1.contains name

def find? (table : RangeTable) (name : String) : Option CodeRanges :=
  (table.entry? name).map fun entry => CodeRanges.ofTable entry.2

end RangeTable

end EntitySchema
