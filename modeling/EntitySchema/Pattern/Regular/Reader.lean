import EntitySchema.Pattern.Regular.ClassReader
import EntitySchema.Pattern.Regular.Form
/-!
Reading regular expressions.

The dialect has groups, flags, classes, counted and lazy repetitions, line anchors and properties of
characters, but neither look-around nor back-references. How deep an expression is nested is
limited: groups, repetitions, choices, sequences and classes each count as one level.
-/

namespace EntitySchema

namespace Pattern

namespace Regular

structure Cursor where
  unread : List Char
  flags : Flags := {}
  groups : Nat := 0
  names : List (List Char) := []

abbrev RegularReader := StateT Cursor Option

def setUnread (text : List Char) : RegularReader Unit :=
  modify fun cursor => { cursor with unread := text }

def nextText : RegularReader (List Char) := do
  let cursor ← get
  let text := skipSpace cursor.flags cursor.unread
  setUnread text
  return text

/-- A part of an expression, and how deep it is nested. A directive only sets flags. -/
structure Part where
  form : Form
  depth : Nat := 0
  isDirective : Bool := false

def inSequence (parts : List Part) : Part :=
  match parts with
  | [part] => part
  | parts =>
    { form := Form.ofSequence (parts.map Part.form)
      depth :=
        if parts.isEmpty then 0 else parts.foldl (fun most part => max most part.depth) 0 + 1 }

def inChoice (alternatives : List Part) : Part :=
  { form := Form.ofChoice (alternatives.map Part.form)
    depth := alternatives.foldl (fun most part => max most part.depth) 0 + 1 }

/-! ## Primitives -/

def formOfCharacter (flags : Flags) (character : Char) : Form :=
  if flags.ignoreCase then
    Form.ofSet (CodeRanges.single character.toNat).withCaseVariants
  else Form.ofCharacter character

def formOfEscaped (flags : Flags) : Escaped → Form
  | .character character => formOfCharacter flags character
  | .set ranges => Form.ofSet ranges

def dotRanges (flags : Flags) : CodeRanges :=
  if flags.dotMatchesNewline then CodeRanges.all
  else CodeRanges.complement (CodeRanges.single '\n'.toNat)

def readPrimitive : RegularReader Part := do
  let flags := (← get).flags
  match ← nextText with
  | [] => failure
  | '\\' :: rest =>
    match readEscape? flags rest with
    | some (escaped, unread) =>
      setUnread unread
      return { form := formOfEscaped flags escaped }
    | none => failure
  | '.' :: rest =>
    setUnread rest
    return { form := Form.ofSet (dotRanges flags) }
  | '^' :: rest =>
    setUnread rest
    return { form := .look (if flags.multiLine then .startOfLine else .startOfText) }
  | '$' :: rest =>
    setUnread rest
    return { form := .look (if flags.multiLine then .endOfLine else .endOfText) }
  | character :: rest =>
    setUnread rest
    return { form := formOfCharacter flags character }

/-! ## Repetitions -/

def maxBound : Nat := UInt32.size - 1

def readBound? (text : List Char) : Option (Nat × List Char) :=
  let text := text.dropWhile isBlank
  let digits := text.takeWhile Char.isDigit
  let value := digits.foldl (fun value digit => 10 * value + (digit.toNat - '0'.toNat)) 0
  if digits.isEmpty || value > maxBound then none
  else some (value, (text.drop digits.length).dropWhile isBlank)

def readBounds? (text : List Char) : Option ((Nat × Option Nat) × List Char) := do
  let (least, text) ← readBound? text
  match text with
  | '}' :: unread => some ((least, some least), unread)
  | ',' :: rest =>
    match rest.dropWhile isBlank with
    | '}' :: unread => some ((least, none), unread)
    | rest =>
      let (most, text) ← readBound? rest
      match text with
      | '}' :: unread => if least ≤ most then some ((least, some most), unread) else none
      | _ => none
  | _ => none

def readOperator? : List Char → Option ((Nat × Option Nat) × List Char)
  | '?' :: rest => some ((0, some 1), rest)
  | '*' :: rest => some ((0, none), rest)
  | '+' :: rest => some ((1, none), rest)
  | '{' :: rest => readBounds? rest
  | _ => none

/-- Applies the operator at the front of the text to the last of the parts, which are given the last
one first. -/
def readRepetition (parts : List Part) (text : List Char) : RegularReader (List Part) := do
  match parts, readOperator? text with
  | part :: before, some ((least, most), unread) =>
    if part.isDirective then failure
    let (isLazy, unread) :=
      match unread with
      | '?' :: rest => (true, rest)
      | unread => (false, unread)
    setUnread unread
    let greedy := isLazy == (← get).flags.swapGreed
    let repeated : Part :=
      { form := Form.ofRepetition least most greedy part.form, depth := part.depth + 1 }
    return repeated :: before
  | _, _ => failure

/-! ## Groups -/

def Flags.set? (flags : Flags) (letter : Char) (value : Bool) : Option Flags :=
  match letter with
  | 'i' => some { flags with ignoreCase := value }
  | 'm' => some { flags with multiLine := value }
  | 's' => some { flags with dotMatchesNewline := value }
  | 'U' => some { flags with swapGreed := value }
  | 'x' => some { flags with ignoreSpace := value }
  | 'u' => if value then some flags else none
  | _ => none

/-- Reads flags up to a closing parenthesis or a colon, which is left. No flag stands twice, and a
minus sign stands before a flag. -/
def readFlags? (flags : Flags) (value : Bool) (seen : List Char) :
    List Char → Option (Flags × List Char × List Char)
  | [] => none
  | letter :: rest =>
    if letter = ')' ∨ letter = ':' then
      if seen.head? = some '-' then none else some (flags, seen, letter :: rest)
    else if seen.contains letter then none
    else if letter = '-' then readFlags? flags false (letter :: seen) rest
    else
      match flags.set? letter value with
      | some flags => readFlags? flags value (letter :: seen) rest
      | none => none

def isNameStart (character : Char) : Bool :=
  character == '_' || alphabeticRanges.contains character

def isNamePart (character : Char) : Bool :=
  isNameStart character || character ∈ ['.', '[', ']'] ||
    (rangesOfCategories ["nd", "nl", "no"]).contains character

/-- Reads the name of a group up to the bracket that closes it. No two groups have one name. -/
def readGroupName (text : List Char) : RegularReader Unit := do
  let name := text.takeWhile fun character => character != '>'
  match name, text.drop name.length with
  | first :: rest, _ :: unread =>
    let cursor ← get
    if !isNameStart first || !rest.all isNamePart || cursor.names.contains name then failure
    set { cursor with unread, names := name :: cursor.names }
  | _, _ => failure

def openGroup : RegularReader Nat := do
  modify fun cursor => { cursor with groups := cursor.groups + 1 }
  return (← get).groups

mutual

def readChoice : Nat → RegularReader Part
  | 0 => failure
  | fuel + 1 => do
    let first ← readSequence fuel []
    match ← readAlternatives fuel with
    | [] => return first
    | others => return inChoice (first :: others)

def readAlternatives : Nat → RegularReader (List Part)
  | 0 => failure
  | fuel + 1 => do
    match ← nextText with
    | '|' :: rest =>
      setUnread rest
      let alternative ← readSequence fuel []
      return alternative :: (← readAlternatives fuel)
    | _ => return []

def readSequence : Nat → List Part → RegularReader Part
  | 0, _ => failure
  | fuel + 1, parts => do
    match ← nextText with
    | [] | '|' :: _ | ')' :: _ => return inSequence parts.reverse
    | '(' :: rest =>
      setUnread rest
      let part ← readGroup fuel
      readSequence fuel (part :: parts)
    | '[' :: rest =>
      match readClass? (← get).flags fuel rest with
      | some (read, unread) =>
        setUnread unread
        readSequence fuel ({ form := Form.ofSet read.ranges, depth := read.depth } :: parts)
      | none => failure
    | text@(first :: _) =>
      if first ∈ ['?', '*', '+', '{'] then
        readSequence fuel (← readRepetition parts text)
      else readSequence fuel ((← readPrimitive) :: parts)

def readGroup : Nat → RegularReader Part
  | 0 => failure
  | fuel + 1 => do
    match ← nextText with
    | '?' :: 'P' :: '<' :: rest => readNumberedGroup fuel (some rest)
    | '?' :: '<' :: '=' :: _ | '?' :: '<' :: '!' :: _ => failure
    | '?' :: '<' :: rest => readNumberedGroup fuel (some rest)
    | '?' :: rest =>
      let outer := (← get).flags
      match readFlags? outer true [] rest with
      | some (flags, seen, ')' :: unread) =>
        if seen.isEmpty then failure
        modify fun cursor => { cursor with unread, flags }
        return { form := .empty, isDirective := true }
      | some (flags, _, _ :: unread) =>
        modify fun cursor => { cursor with unread, flags }
        let body ← readBody fuel outer
        return { form := body.form, depth := body.depth + 1 }
      | _ => failure
    | _ => readNumberedGroup fuel none

def readNumberedGroup : Nat → Option (List Char) → RegularReader Part
  | 0, _ => failure
  | fuel + 1, name? => do
    let number ← openGroup
    if let some text := name? then readGroupName text
    let body ← readBody fuel (← get).flags
    return { form := .group number body.form, depth := body.depth + 1 }

/-- Reads the body of a group and its closing parenthesis, after which the given flags are in
force. -/
def readBody : Nat → Flags → RegularReader Part
  | 0, _ => failure
  | fuel + 1, outer => do
    let body ← readChoice fuel
    match ← nextText with
    | ')' :: unread =>
      modify fun cursor => { cursor with unread, flags := outer }
      return body
    | _ => failure

end

def maxDepth : Nat := 250

def read? (text : List Char) : Option Form := do
  let (part, cursor) ← (readChoice (8 * text.length + 16)).run { unread := text }
  if cursor.unread.isEmpty && part.depth ≤ maxDepth then some part.form else none

end Regular

end Pattern

end EntitySchema
