import EntitySchema.Pattern.Subject
import EntitySchema.Text.Ranges
/-!
Normal forms of regular expressions.

The functions that build forms simplify them on the way: adjacent literals are joined, nested
sequences and choices are flattened, a choice between characters is a set, and parts that all
alternatives start with are taken out of a choice. Simplification changes neither the texts that a
form matches nor the order of preference.
-/

namespace EntitySchema

namespace Pattern

inductive Form where
  | empty
  | literal (bytes : List UInt8)
  /-- One character out of a class. Nothing matches the empty class. -/
  | set (ranges : CodeRanges)
  | look (condition : Assertion)
  | repetition (least : Nat) (most : Option Nat) (greedy : Bool) (body : Form)
  | group (number : Nat) (body : Form)
  | sequence (parts : List Form)
  | choice (alternatives : List Form)
  deriving BEq, Repr, Inhabited

namespace Form

def bytesOfCode (code : Nat) : List UInt8 := String.utf8EncodeChar (Char.ofNat code)

def ofCharacter (character : Char) : Form := .literal (String.utf8EncodeChar character)

/-! ## Lengths -/

def lengthOfCode (code : Nat) : Nat :=
  if code < 0x80 then 1 else if code < 0x800 then 2 else if code < 0x10000 then 3 else 4

mutual

/-- The least number of bytes that the form matches; none if the form cannot match. -/
def minLength : Form → Option Nat
  | .empty | .look _ => some 0
  | .literal bytes => some bytes.length
  | .set ranges => ranges.head?.map fun range => lengthOfCode range.1
  | .repetition least _ _ body => (minLength body).map (· * least)
  | .group _ body => minLength body
  | .sequence parts => minLengthOfAll parts
  | .choice alternatives => minLengthOfAny alternatives

def minLengthOfAll : List Form → Option Nat
  | [] => some 0
  | part :: rest => do return (← minLength part) + (← minLengthOfAll rest)

def minLengthOfAny : List Form → Option Nat
  | [] => none
  | [alternative] => minLength alternative
  | alternative :: rest => do return min (← minLength alternative) (← minLengthOfAny rest)

end

mutual

/-- The greatest number of bytes that the form matches; none if there is no bound. -/
def maxLength : Form → Option Nat
  | .empty | .look _ => some 0
  | .literal bytes => some bytes.length
  | .set ranges => ranges.getLast?.map fun range => lengthOfCode range.2
  | .repetition _ most _ body => do return (← maxLength body) * (← most)
  | .group _ body => maxLength body
  | .sequence parts => maxLengthOfAll parts
  | .choice alternatives => maxLengthOfAny alternatives

def maxLengthOfAll : List Form → Option Nat
  | [] => some 0
  | part :: rest => do return (← maxLength part) + (← maxLengthOfAll rest)

def maxLengthOfAny : List Form → Option Nat
  | [] => none
  | [alternative] => maxLength alternative
  | alternative :: rest => do return max (← maxLength alternative) (← maxLengthOfAny rest)

end

def isWidthless (form : Form) : Bool := form.maxLength == some 0

/-! ## Anchors -/

mutual

def startsAt (condition : Assertion) : Form → Bool
  | .empty | .literal _ | .set _ => false
  | .look found => found == condition
  | .repetition least _ _ body => 0 < least && startsAt condition body
  | .group _ body => startsAt condition body
  | .sequence parts => sequenceStartsAt condition parts
  | .choice alternatives => allStartAt condition alternatives

def sequenceStartsAt (condition : Assertion) : List Form → Bool
  | [] => false
  | part :: rest =>
    startsAt condition part || (isWidthless part && sequenceStartsAt condition rest)

def allStartAt (condition : Assertion) : List Form → Bool
  | [] => true
  | alternative :: rest => startsAt condition alternative && allStartAt condition rest

end

mutual

def endsAt (condition : Assertion) : Form → Bool
  | .empty | .literal _ | .set _ => false
  | .look found => found == condition
  | .repetition least _ _ body => 0 < least && endsAt condition body
  | .group _ body => endsAt condition body
  | .sequence parts => (sequenceEndsAt condition parts).1
  | .choice alternatives => allEndAt condition alternatives

/-- Whether the parts end so, and whether all of them only match the empty text. -/
def sequenceEndsAt (condition : Assertion) : List Form → Bool × Bool
  | [] => (false, true)
  | part :: rest =>
    let (found, widthless) := sequenceEndsAt condition rest
    (found || (widthless && endsAt condition part), widthless && isWidthless part)

def allEndAt (condition : Assertion) : List Form → Bool
  | [] => true
  | alternative :: rest => endsAt condition alternative && allEndAt condition rest

end

/-! ## Building forms -/

def singleCode? : CodeRanges → Option Nat
  | [(first, last)] => if first = last then some first else none
  | _ => none

def ofSet (ranges : CodeRanges) : Form :=
  match singleCode? ranges with
  | some code => .literal (bytesOfCode code)
  | none => .set ranges

/-- What can only match the empty text is repeated at most once. -/
def ofRepetition (least : Nat) (most : Option Nat) (greedy : Bool) (body : Form) : Form :=
  let (least, most) :=
    if body.isWidthless then (min least 1, some (min (most.getD 1) 1)) else (least, most)
  if least = 0 ∧ most = some 0 then .empty
  else if least = 1 ∧ most = some 1 then body
  else .repetition least most greedy body

def putPart (part : Form) (parts : List Form) : List Form :=
  match part, parts with
  | .empty, parts => parts
  | .literal bytes, .literal following :: rest => .literal (bytes ++ following) :: rest
  | part, parts => part :: parts

def partsOf : Form → List Form
  | .sequence parts => parts
  | form => [form]

def ofSequence (forms : List Form) : Form :=
  match (forms.flatMap partsOf).foldr putPart [] with
  | [] => .empty
  | [part] => part
  | parts => .sequence parts

def alternativesOf : Form → List Form
  | .choice alternatives => alternatives
  | form => [form]

def characterOf? : Form → Option Nat
  | .literal bytes =>
    let subject : Subject := { bytes := ByteArray.mk bytes.toArray }
    if subject.next? 0 = some subject.size then subject.code? 0 else none
  | _ => none

def rangesOf? : Form → Option CodeRanges
  | .set ranges => some ranges
  | _ => none

def commonParts : List Form → List Form → List Form
  | left :: lefts, right :: rights => if left == right then left :: commonParts lefts rights else []
  | _, _ => []

def sequenceParts? : Form → Option (List Form)
  | .sequence parts => some parts
  | _ => none

def sharedStart? (alternatives : List Form) : Option (List Form × List (List Form)) := do
  match ← alternatives.mapM sequenceParts? with
  | [] => none
  | first :: others =>
    let shared := others.foldl commonParts first
    if shared.isEmpty then none
    else some (shared, (first :: others).map fun parts => parts.drop shared.length)

/-- A choice. What remains after the parts that are shared is a choice again; the fuel bounds how
often that happens. -/
def ofChoiceWithin : Nat → List Form → Form
  | 0, forms => .choice forms
  | fuel + 1, forms =>
    match forms.flatMap alternativesOf with
    | [] => .set []
    | [form] => form
    | alternatives =>
      match alternatives.mapM characterOf? with
      | some codes => ofSet (CodeRanges.normalize (codes.map fun code => (code, code)))
      | none =>
        match alternatives.mapM rangesOf? with
        | some classes => ofSet (CodeRanges.unions classes)
        | none =>
          match sharedStart? alternatives with
          | some (shared, remaining) =>
            ofSequence (shared ++ [ofChoiceWithin fuel (remaining.map ofSequence)])
          | none => .choice alternatives

def maxParts (forms : List Form) : Nat :=
  (forms.flatMap alternativesOf).foldl (fun most form => max most (partsOf form).length) 0

def ofChoice (forms : List Form) : Form := ofChoiceWithin (maxParts forms + 1) forms

end Form

end Pattern

end EntitySchema
