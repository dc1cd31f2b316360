import EntitySchema.Text.BinaryProperty
import EntitySchema.Text.CaseFolding
import EntitySchema.Text.Character
import EntitySchema.Text.Property
/-!
Reading classes of characters in regular expressions.

A class lists characters, ranges, named classes, escapes and nested classes. Lists are combined from
left to right by `&&` (both), `--` (the left without the right) and `~~` (exactly one of the two).
Where case is ignored, a class also has the case variants of its members.
-/

namespace EntitySchema

namespace Pattern

namespace Regular

structure Flags where
  ignoreCase : Bool := false
  multiLine : Bool := false
  dotMatchesNewline : Bool := false
  swapGreed : Bool := false
  ignoreSpace : Bool := false
  deriving DecidableEq, Repr

def skipSpace (flags : Flags) (text : List Char) : List Char :=
  if flags.ignoreSpace then skipFrom (text.length + 1) text else text
where
  skipFrom : Nat → List Char → List Char
    | 0, text => text
    | fuel + 1, text =>
      match text.dropWhile isBlank with
      | '#' :: comment => skipFrom fuel (comment.dropWhile fun character => character != '\n')
      | text => text

/-! ## Escapes -/

inductive Escaped where
  | character (character : Char)
  | set (ranges : CodeRanges)
  deriving DecidableEq, Repr

def blankRanges : CodeRanges := listedProperty "space"

def isSign (character : Char) : Bool :=
  character.toNat < 0x80 && !character.isAlphanum && character != '<' && character != '>'

def splitName (separators : List (List Char)) : List Char → Option (List Char × List Char)
  | [] => none
  | text@(first :: rest) =>
    match separators.find? fun separator => separator.isPrefixOf text with
    | some separator => some ([], text.drop separator.length)
    | none => (splitName separators rest).map fun (before, after) => (first :: before, after)

def namedProperty? (name : List Char) : Option CodeRanges :=
  match splitName [['!', '=']] name with
  | some (property, value) => propertyValueRanges? property value
  | none =>
    match splitName [[':']] name with
    | some (property, value) => propertyValueRanges? property value
    | none =>
      match splitName [['=']] name with
      | some (property, value) => propertyValueRanges? property value
      | none => propertyRanges? name

def readPropertyName? (flags : Flags) (text : List Char) : Option (List Char × List Char) :=
  match skipSpace flags text with
  | '{' :: rest =>
    let name := rest.takeWhile fun character => character != '}'
    match rest.drop name.length with
    | _ :: unread =>
      some (if flags.ignoreSpace then name.filter fun letter => !isBlank letter else name, unread)
    | [] => none
  | '\\' :: _ => none
  | letter :: rest => some ([letter], rest)
  | [] => none

def readProperty? (flags : Flags) (negated : Bool) (text : List Char) :
    Option (Escaped × List Char) := do
  let (name, unread) ← readPropertyName? flags text
  let ranges ← namedProperty? name
  return (.set ((ranges.foldedIf flags.ignoreCase).complementIf negated), unread)

def readEscape? (flags : Flags) : List Char → Option (Escaped × List Char)
  | [] => none
  | letter :: rest =>
    match letter with
    | 'd' => some (.set decimalDigitRanges, rest)
    | 'D' => some (.set (CodeRanges.complement decimalDigitRanges), rest)
    | 's' => some (.set blankRanges, rest)
    | 'S' => some (.set blankRanges.complement, rest)
    | 'w' => some (.set wordCharacterRanges, rest)
    | 'W' => some (.set wordCharacterRanges.complement, rest)
    | 'p' => readProperty? flags false rest
    | 'P' => readProperty? flags true rest
    | sign => if isSign sign then some (.character sign, rest) else none

/-! ## Named classes -/

def namedClass? (name : String) : Option CodeRanges :=
  match name with
  | "alnum" => some [(0x30, 0x39), (0x41, 0x5A), (0x61, 0x7A)]
  | "alpha" => some [(0x41, 0x5A), (0x61, 0x7A)]
  | "ascii" => some [(0, 0x7F)]
  | "blank" => some [(0x09, 0x09), (0x20, 0x20)]
  | "cntrl" => some [(0, 0x1F), (0x7F, 0x7F)]
  | "digit" => some [(0x30, 0x39)]
  | "graph" => some [(0x21, 0x7E)]
  | "lower" => some [(0x61, 0x7A)]
  | "print" => some [(0x20, 0x7E)]
  | "punct" => some [(0x21, 0x2F), (0x3A, 0x40), (0x5B, 0x60), (0x7B, 0x7E)]
  | "space" => some [(0x09, 0x0D), (0x20, 0x20)]
  | "upper" => some [(0x41, 0x5A)]
  | "word" => some [(0x30, 0x39), (0x41, 0x5A), (0x5F, 0x5F), (0x61, 0x7A)]
  | "xdigit" => some [(0x30, 0x39), (0x41, 0x46), (0x61, 0x66)]
  | _ => none

def readNamedClass? (flags : Flags) : List Char → Option (CodeRanges × List Char)
  | ':' :: text => do
    let (negated, text) :=
      match text with
      | '^' :: rest => (true, rest)
      | text => (false, text)
    let name := text.takeWhile fun character => character != ':'
    match text.drop name.length with
    | ':' :: ']' :: unread =>
      let ranges ← namedClass? (String.ofList name)
      return ((ranges.foldedIf flags.ignoreCase).complementIf negated, unread)
    | _ => none
  | _ => none

/-! ## Lists and operators -/

structure Class where
  ranges : CodeRanges := []
  depth : Nat := 0
  deriving DecidableEq, Repr

inductive Operator where
  | both
  | without
  | exactlyOne
  deriving DecidableEq, Repr

def Operator.apply : Operator → CodeRanges → CodeRanges → CodeRanges
  | .both, left, right => left.intersection right
  | .without, left, right => left.difference right
  | .exactlyOne, left, right => left.symmetricDifference right

def operator? : List Char → Option Operator
  | '&' :: '&' :: _ => some .both
  | '-' :: '-' :: _ => some .without
  | '~' :: '~' :: _ => some .exactlyOne
  | _ => none

structure Members where
  ranges : CodeRanges := []
  count : Nat := 0
  depth : Nat := 0

def Members.add (members : Members) (ranges : CodeRanges) (depth : Nat) : Members :=
  { ranges := ranges ++ members.ranges, count := members.count + 1
    depth := max depth members.depth }

/-- A list of several members is one level deeper than its members. -/
def Members.toClass (members : Members) : Class :=
  { ranges := CodeRanges.normalize members.ranges
    depth := if members.count ≤ 1 then members.depth else members.depth + 1 }

def combine (flags : Flags) (pending : Option (Operator × Class)) (list : Class) : Class :=
  match pending with
  | none => list
  | some (operator, left) =>
    { ranges := operator.apply (left.ranges.foldedIf flags.ignoreCase)
        (list.ranges.foldedIf flags.ignoreCase)
      depth := max left.depth list.depth + 1 }

def readMember? (flags : Flags) : List Char → Option (Escaped × List Char)
  | '\\' :: rest => readEscape? flags rest
  | character :: rest => some (.character character, rest)
  | [] => none

/-- A member or a range of characters. A hyphen before the closing bracket or before another hyphen
does not make a range. -/
def readRange? (flags : Flags) (text : List Char) : Option (CodeRanges × List Char) := do
  let (first, unread) ← readMember? flags text
  let alone : CodeRanges :=
    match first with
    | .character character => CodeRanges.single character.toNat
    | .set ranges => ranges
  match skipSpace flags unread with
  | [] => none
  | '-' :: afterHyphen =>
    match skipSpace flags afterHyphen with
    | ']' :: _ | '-' :: _ => some (alone, skipSpace flags unread)
    | upper =>
      let (last, unread) ← readMember? flags upper
      match first, last with
      | .character first, .character last =>
        if first ≤ last then some ([(first.toNat, last.toNat)], unread) else none
      | _, _ => none
  | unread => some (alone, unread)

def readHyphens (flags : Flags) : Nat → Members → List Char → Members × List Char
  | 0, members, text => (members, text)
  | fuel + 1, members, text =>
    match text with
    | '-' :: rest => readHyphens flags fuel (members.add [(0x2D, 0x2D)] 0) (skipSpace flags rest)
    | text => (members, text)

/-- What may stand at the start of a class, after its bracket and the mark of negation: hyphens, or
a closing bracket that stands for itself. -/
def readStart (flags : Flags) (fuel : Nat) (text : List Char) : Members × List Char :=
  match skipSpace flags text with
  | ']' :: rest => (({} : Members).add [(0x5D, 0x5D)] 0, skipSpace flags rest)
  | text => readHyphens flags fuel {} text

mutual

def readClass? (flags : Flags) : Nat → List Char → Option (Class × List Char)
  | 0, _ => none
  | fuel + 1, text => do
    let (negated, text) :=
      match skipSpace flags text with
      | '^' :: rest => (true, rest)
      | text => (false, text)
    let (members, text) := readStart flags fuel text
    let (list, unread) ← readMembers? flags fuel none members text
    let ranges := (list.ranges.foldedIf flags.ignoreCase).complementIf negated
    return ({ ranges, depth := list.depth + 1 }, unread)

def readMembers? (flags : Flags) : Nat → Option (Operator × Class) → Members → List Char →
    Option (Class × List Char)
  | 0, _, _, _ => none
  | fuel + 1, pending, members, text =>
    let text := skipSpace flags text
    match operator? text with
    | some operator =>
      readMembers? flags fuel (some (operator, combine flags pending members.toClass)) {}
        (text.drop 2)
    | none =>
      match text with
      | [] => none
      | ']' :: unread => some (combine flags pending members.toClass, unread)
      | '[' :: rest =>
        match readNamedClass? flags rest with
        | some (ranges, unread) => readMembers? flags fuel pending (members.add ranges 0) unread
        | none =>
          match readClass? flags fuel rest with
          | some (nested, unread) =>
            readMembers? flags fuel pending (members.add nested.ranges nested.depth) unread
          | none => none
      | text =>
        match readRange? flags text with
        | some (ranges, unread) => readMembers? flags fuel pending (members.add ranges 0) unread
        | none => none

end

end Regular

end Pattern

end EntitySchema
