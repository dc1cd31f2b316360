import EntitySchema.Pattern.Regular.Form
/-!
Classes of characters as sequences of byte ranges.

In UTF-8 the characters of a class are the texts of finitely many sequences of byte ranges. A range
of code points is cut where the number of bytes changes, at the surrogates, and then so that its
ends differ in all bytes after the first one that differs or in none.
-/

namespace EntitySchema

namespace Pattern

structure ByteRange where
  first : UInt8
  last : UInt8
  deriving DecidableEq, Repr

namespace ByteRange

/-- The code points that are encoded in one, two, three and four bytes, without the surrogates. -/
def encodingBlocks : List (Nat × Nat) :=
  [(0, 0x7F), (0x80, 0x7FF), (0x800, 0xD7FF), (0xE000, 0xFFFF), (0x10000, 0x10FFFF)]

def splitAtBlocks (first last : Nat) : List (Nat × Nat) :=
  encodingBlocks.filterMap fun (blockFirst, blockLast) =>
    let first := max first blockFirst
    let last := min last blockLast
    if first ≤ last then some (first, last) else none

/-- Where a range has to be cut so that the last bytes of its parts run over all their values. The
span counts the code points that differ in these bytes only. -/
def cutAt? (first last span : Nat) : Option Nat :=
  if first / span = last / span then none
  else if first % span ≠ 0 then some (first / span * span + span - 1)
  else if last % span ≠ span - 1 then some (last / span * span - 1)
  else none

def continuationSpans : List Nat := [0x40, 0x1000, 0x40000]

/-- The parts of a range in one block, each a sequence of byte ranges. A range is cut at most twice
for each span. -/
def splitAligned : Nat → Nat → Nat → List (Nat × Nat)
  | 0, first, last => [(first, last)]
  | fuel + 1, first, last =>
    match continuationSpans.findSome? (cutAt? first last) with
    | some cut => splitAligned fuel first cut ++ splitAligned fuel (cut + 1) last
    | none => [(first, last)]

def betweenCodes (first last : Nat) : List ByteRange :=
  (Form.bytesOfCode first).zipWith ByteRange.mk (Form.bytesOfCode last)

def sequencesOfBlock (range : Nat × Nat) : List (List ByteRange) :=
  if range.2 < 0x80 then [betweenCodes range.1 range.2]
  else (splitAligned 7 range.1 range.2).map fun (first, last) => betweenCodes first last

def sequencesOf (ranges : CodeRanges) : List (List ByteRange) :=
  ranges.flatMap fun (first, last) => (splitAtBlocks first last).flatMap sequencesOfBlock

end ByteRange

end Pattern

end EntitySchema
