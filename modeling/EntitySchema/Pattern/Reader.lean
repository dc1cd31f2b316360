import EntitySchema.Pattern.Expression
import EntitySchema.Pattern.Regular.Reader
/-!
Reading the text of a pattern.

The dialect has groups, named groups, back-references, look-around, atomic groups, conditionals,
lazy and possessive quantifiers, and the flags `i`, `m`, `s`, `x` and `U`. A brace that does not
start a quantifier stands for itself. Classes are only read as far as their brackets; what they
mean is for the regular dialect to say.
-/

namespace EntitySchema

namespace Pattern

open Regular (Flags)

structure Cursor where
  unread : List Char
  flags : Flags := {}
  groups : Nat := 0
  names : List (List Char × Nat) := []
  hasNumberedReference : Bool := false

abbrev PatternReader := StateT Cursor Option

def peek? : PatternReader (Option Char) := do return (← get).unread.head?

def unreadText : PatternReader (List Char) := do return (← get).unread

def setUnread (text : List Char) : PatternReader Unit :=
  modify fun cursor => { cursor with unread := text }

def advance (count : Nat) : PatternReader Unit :=
  modify fun cursor => { cursor with unread := cursor.unread.drop count }

def flags : PatternReader Flags := do return (← get).flags

def lookingAt (text : String) : PatternReader Bool := do
  return text.toList.isPrefixOf (← unreadText)

/-! ## Ignored text -/

inductive Ignored where
  | nothing
  | comment
  | lineComment
  deriving DecidableEq, Repr

/-- Passes over comments and, where white space is ignored, over white space and line comments. A
comment has to be closed. -/
def skipIgnoredIn (ignoreSpace : Bool) : Ignored → List Char → Option (List Char)
  | .nothing, '(' :: '?' :: '#' :: rest => skipIgnoredIn ignoreSpace .comment rest
  | .nothing, first :: rest =>
    if !ignoreSpace then some (first :: rest)
    else if first = '#' then skipIgnoredIn ignoreSpace .lineComment rest
    else if first ∈ [' ', '\r', '\n', '\t'] then skipIgnoredIn ignoreSpace .nothing rest
    else some (first :: rest)
  | .nothing, [] => some []
  | .comment, ')' :: rest => skipIgnoredIn ignoreSpace .nothing rest
  | .comment, '\\' :: _ :: rest => skipIgnoredIn ignoreSpace .comment rest
  | .comment, _ :: rest => skipIgnoredIn ignoreSpace .comment rest
  | .comment, [] => none
  | .lineComment, '\n' :: rest => skipIgnoredIn ignoreSpace .nothing rest
  | .lineComment, _ :: rest => skipIgnoredIn ignoreSpace .lineComment rest
  | .lineComment, [] => some []

def skipIgnored? (ignoreSpace : Bool) (text : List Char) : Option (List Char) :=
  skipIgnoredIn ignoreSpace .nothing text

def skipIgnored : PatternReader Unit := do
  match skipIgnored? (← flags).ignoreSpace (← unreadText) with
  | some rest => setUnread rest
  | none => failure

/-! ## Numbers and names -/

def wordLimit : Nat := UInt64.size

def takeDecimal? (text : List Char) : Option (Nat × List Char) :=
  let digits := text.takeWhile isDigit
  let value := valueOfDigits digits
  if digits.isEmpty || value ≥ wordLimit then none else some (value, text.dropWhile isDigit)

def reference (number : Nat) : PatternReader Expression := do
  if number > (← get).groups then failure
  return .backreference number

def numberedReference : PatternReader Expression := do
  match takeDecimal? (← unreadText) with
  | none => failure
  | some (number, rest) =>
    modify fun cursor => { cursor with unread := rest, hasNumberedReference := true }
    reference number

def numeralRanges : CodeRanges := rangesOfCategories ["nd", "nl", "no"]

def isNameCharacter (character : Char) : Bool :=
  character == '_' || alphabeticRanges.contains character || numeralRanges.contains character

def readName (close : Char) : PatternReader (List Char) := do
  let text ← unreadText
  let name := text.takeWhile isNameCharacter
  match text.drop name.length with
  | first :: rest =>
    if first = close ∧ !name.isEmpty then
      setUnread rest
      return name
    else failure
  | [] => failure

def referenceTo (name : List Char) : PatternReader Expression := do
  match (← get).names.find? fun entry => entry.1 == name with
  | some (_, number) => reference number
  | none =>
    match takeDecimal? name with
    | some (number, []) => reference number
    | _ => failure

/-- A group so many groups back, counted from the last one that was opened. -/
def referenceBack (distance : List Char) : PatternReader Expression := do
  match takeDecimal? distance with
  | some (0, []) => reference 0
  | some (distance, []) =>
    let groups := (← get).groups
    if distance > groups + 1 then failure
    reference (groups + 1 - distance)
  | _ => failure

def namedReference (close : Char) : PatternReader Expression := do
  if (← peek?) == some '-' then
    advance 1
    referenceBack (← readName close)
  else referenceTo (← readName close)

/-! ## Escapes -/

/-- A code point: exactly as many hexadecimal digits as given, or up to eight in braces. -/
def readCode (digits : Nat) : PatternReader Expression := do
  let text ← unreadText
  let fixed := text.take digits
  let (code, unread) ←
    match if fixed.length = digits then valueOfHexDigits? fixed else none with
    | some code => pure (code, text.drop digits)
    | none =>
      match text with
      | '{' :: braced =>
        let inside := braced.takeWhile fun character => character != '}'
        if inside.isEmpty || inside.length > 8 || braced.length = inside.length then failure
        pure (← liftM (valueOfHexDigits? inside), braced.drop (inside.length + 1))
      | _ => failure
  setUnread unread
  return .literal (← liftM (charOfCode? code)) (← flags).ignoreCase

def readProperty (letter : Char) : PatternReader Expression := do
  match ← unreadText with
  | '{' :: rest =>
    let name := rest.takeWhile fun character => character != '}'
    match rest.drop name.length with
    | _ :: unread =>
      setUnread unread
      return .excerpt (['\\', letter, '{'] ++ name ++ ['}']) (← flags).ignoreCase
    | [] => failure
  | first :: unread =>
    setUnread unread
    return .excerpt ['\\', letter, first] (← flags).ignoreCase
  | [] => failure

def controlCharacter? : Char → Option Char
  | 'a' => some (Char.ofNat 0x07)
  | 'b' => some (Char.ofNat 0x08)
  | 'f' => some (Char.ofNat 0x0C)
  | 'n' => some '\n'
  | 'r' => some '\r'
  | 't' => some '\t'
  | 'v' => some (Char.ofNat 0x0B)
  | 'e' => some (Char.ofNat 0x1B)
  | _ => none

/-- The letters whose escapes have a meaning of their own outside of a class, and stand for
themselves inside of one. -/
def outerLetters : List Char := ['k', 'A', 'z', 'B', 'K', 'G']

/-- The escapes that mean the same inside and outside of a class. Other letters cannot be escaped,
and all other characters stand for themselves. -/
def readCommonEscape (letter : Char) : PatternReader Expression := do
  match letter with
  | 'd' | 'D' | 's' | 'S' | 'w' | 'W' => return .excerpt ['\\', letter] (← flags).ignoreCase
  | 'h' => return .excerpt "[0-9A-Fa-f]".toList false
  | 'H' => return .excerpt "[^0-9A-Fa-f]".toList false
  | 'x' => readCode 2
  | 'u' => readCode 4
  | 'U' => readCode 8
  | 'p' | 'P' => readProperty letter
  | other =>
    match controlCharacter? other with
    | some character => return .literal character false
    | none =>
      if other.isAlpha && other ∉ outerLetters then failure
      return .literal other false

def readBoundary (condition : Assertion) : PatternReader Expression := do
  if (← peek?) == some '{' then failure
  return .assertion condition

def readOuterEscape (letter : Char) : PatternReader Expression := do
  match letter with
  | 'k' =>
    match ← peek? with
    | some '\'' => do
      advance 1
      namedReference '\''
    | some '<' => do
      advance 1
      namedReference '>'
    | _ => failure
  | 'A' => return .assertion .startOfText
  | 'z' => return .assertion .endOfText
  | 'b' => readBoundary .wordBoundary
  | 'B' => readBoundary .notWordBoundary
  | '<' => return .assertion .wordStart
  | '>' => return .assertion .wordEnd
  | 'K' => return .matchStart
  | 'G' => return .searchStart
  | other => readCommonEscape other

def readEscape (inClass : Bool) : PatternReader Expression := do
  match ← peek? with
  | none => failure
  | some letter =>
    if isDigit letter then numberedReference
    else do
      advance 1
      if inClass then readCommonEscape letter else readOuterEscape letter

/-! ## Classes -/

def textInClass? : Expression → Option (List Char)
  | .literal character _ => some (Expression.quote character)
  | .excerpt text _ => some text
  | _ => none

/-- Reads the text of a class up to the bracket that closes it, and writes its escapes so that the
regular dialect has them. -/
def readClassText : Nat → Nat → PatternReader (List Char)
  | 0, _ => failure
  | fuel + 1, nesting => do
    match ← peek? with
    | none => failure
    | some first =>
      advance 1
      if first = '\\' then
        let text ← liftM (textInClass? (← readEscape true))
        return text ++ (← readClassText fuel nesting)
      else if first = '[' then
        return first :: (← readClassText fuel (nesting + 1))
      else if first = ']' then
        if nesting ≤ 1 then return [first]
        return first :: (← readClassText fuel (nesting - 1))
      else return first :: (← readClassText fuel nesting)

def readOptional (character : Char) : PatternReader (List Char) := do
  if (← peek?) == some character then
    advance 1
    return [character]
  else return []

/-- Reads a class after its opening bracket. A closing bracket in the first place stands for
itself. -/
def readClass (fuel : Nat) : PatternReader Expression := do
  let negation ← readOptional '^'
  let bracket ← readOptional ']'
  let text ← readClassText fuel 1
  return .excerpt ('[' :: negation ++ bracket ++ text) (← flags).ignoreCase

/-! ## Quantifiers -/

/-- The largest bound means that there is none. -/
def boundOf (value : Nat) : Option Nat := if value = wordLimit - 1 then none else some value

def readBounds? (ignoreSpace : Bool) (text : List Char) :
    Option ((Nat × Option Nat) × List Char) := do
  let text ← skipIgnored? ignoreSpace text
  let (least, text) ←
    match text with
    | ',' :: _ => some (0, text)
    | _ => takeDecimal? text
  match ← skipIgnored? ignoreSpace text with
  | '}' :: rest => some ((least, boundOf least), rest)
  | ',' :: text =>
    let text ← skipIgnored? ignoreSpace text
    let (most, text) :=
      match takeDecimal? text with
      | some (most, rest) => (boundOf most, rest)
      | none => (none, text)
    match ← skipIgnored? ignoreSpace text with
    | '}' :: rest => some ((least, most), rest)
    | _ => none
  | _ => none

def readQuantifier : PatternReader (Option (Nat × Option Nat)) := do
  match ← unreadText with
  | '?' :: rest => setUnread rest; return some (0, some 1)
  | '*' :: rest => setUnread rest; return some (0, none)
  | '+' :: rest => setUnread rest; return some (1, none)
  | '{' :: rest =>
    match readBounds? (← flags).ignoreSpace rest with
    | some (bounds, rest) => setUnread rest; return some bounds
    | none => return none
  | _ => return none

def readRepetition (body : Expression) : PatternReader Expression := do
  skipIgnored
  match ← readQuantifier with
  | none => return body
  | some (least, most) =>
    if !body.isRepeatable then failure
    skipIgnored
    let isLazy := !(← readOptional '?').isEmpty
    let repetition := Expression.repetition least most (isLazy == (← flags).swapGreed) body
    let isPossessive := !(← readOptional '+').isEmpty
    return if isPossessive then .atomic repetition else repetition

/-! ## Flags -/

/-- Reads flags up to a closing parenthesis (`false`) or a colon (`true`), which is passed over.
Something has to stand before the parenthesis, and something other than a minus sign alone before
either; the length of the text tells. -/
def readFlagsFrom (length : Nat) : Nat → Bool → Flags → List Char →
    Option (Bool × Flags × List Char)
  | 0, _, _, _ => none
  | fuel + 1, value, flags, text => do
    let text ← skipIgnored? flags.ignoreSpace text
    let hasMinusOnly := !value && text.length + 1 == length
    match text with
    | [] => none
    | ')' :: rest =>
      if text.length = length || hasMinusOnly then none else some (false, flags, rest)
    | ':' :: rest => if hasMinusOnly then none else some (true, flags, rest)
    | '-' :: rest => if value then readFlagsFrom length fuel false flags rest else none
    | letter :: rest => readFlagsFrom length fuel value (← flags.set? letter value) rest

def readFlags? (flags : Flags) (text : List Char) : Option (Bool × Flags × List Char) :=
  readFlagsFrom text.length (text.length + 1) true flags text

/-! ## Groups -/

def closeGroup : PatternReader Unit := do
  skipIgnored
  match ← unreadText with
  | ')' :: rest => setUnread rest
  | _ => failure

def openGroup : PatternReader Nat := do
  modify fun cursor => { cursor with groups := cursor.groups + 1 }
  return (← get).groups

def maxNesting : Nat := 63

def sequenceOf : List Expression → Expression
  | [] => .empty
  | [part] => part
  | parts => .sequence parts

def branches : Expression → Expression × Expression
  | .choice (first :: [second]) => (first, second)
  | .choice (first :: others) => (first, .choice others)
  | other => (other, .empty)

/-- A reference as a condition asks whether the group has matched. -/
def asCondition : Expression → Expression
  | .backreference number => .groupMatched number
  | other => other

def isReference : Expression → Bool
  | .backreference _ => true
  | _ => false

mutual

/-- Reads alternatives. Numbered and named references do not go together, which is checked where
a single alternative ends. -/
def readChoice : Nat → Nat → PatternReader Expression
  | 0, _ => failure
  | fuel + 1, nesting => do
    let first ← readSequence fuel nesting
    skipIgnored
    if (← peek?) == some '|' then
      return .choice (first :: (← readAlternatives fuel nesting))
    let cursor ← get
    if cursor.hasNumberedReference && !cursor.names.isEmpty then failure
    return first

def readAlternatives : Nat → Nat → PatternReader (List Expression)
  | 0, _ => failure
  | fuel + 1, nesting => do
    if (← peek?) != some '|' then return []
    advance 1
    let alternative ← readSequence fuel nesting
    skipIgnored
    return alternative :: (← readAlternatives fuel nesting)

def readSequence : Nat → Nat → PatternReader Expression
  | 0, _ => failure
  | fuel + 1, nesting => do return sequenceOf (← readPieces fuel nesting)

def readPieces : Nat → Nat → PatternReader (List Expression)
  | 0, _ => failure
  | fuel + 1, nesting => do
    skipIgnored
    match ← peek? with
    | none | some '|' | some ')' => return []
    | some first =>
      advance 1
      let piece ← readRepetition (← readAtom fuel nesting first)
      let rest ← readPieces fuel nesting
      return if piece.isEmpty then rest else piece :: rest

def readAtom : Nat → Nat → Char → PatternReader Expression
  | 0, _, _ => failure
  | fuel + 1, nesting, first => do
    match first with
    | '+' | '*' | '?' => failure
    | '.' => return .any (← flags).dotMatchesNewline
    | '^' => return .assertion (if (← flags).multiLine then .startOfLine else .startOfText)
    | '$' => return .assertion (if (← flags).multiLine then .endOfLine else .endOfText)
    | '(' => readGroup fuel (nesting + 1)
    | '\\' => readEscape false
    | '[' => readClass fuel
    | other => return .literal other (← flags).ignoreCase

def readGroup : Nat → Nat → PatternReader Expression
  | 0, _ => failure
  | fuel + 1, nesting => do
    if nesting > maxNesting then failure
    skipIgnored
    if ← lookingAt "?=" then
      advance 2
      return .lookAround false false (← readBody fuel nesting)
    else if ← lookingAt "?!" then
      advance 2
      return .lookAround false true (← readBody fuel nesting)
    else if ← lookingAt "?<=" then
      advance 3
      return .lookAround true false (← readBody fuel nesting)
    else if ← lookingAt "?<!" then
      advance 3
      return .lookAround true true (← readBody fuel nesting)
    else if ← lookingAt "?<" then
      advance 2
      readNamedGroup fuel nesting
    else if ← lookingAt "?P<" then
      advance 3
      readNamedGroup fuel nesting
    else if ← lookingAt "?P=" then
      advance 3
      referenceTo (← readName ')')
    else if ← lookingAt "?>" then
      advance 2
      return .atomic (← readBody fuel nesting)
    else if ← lookingAt "?(" then
      advance 2
      readConditional fuel nesting
    else if ← lookingAt "?" then
      advance 1
      let outer ← flags
      let (hasBody, changed, rest) ← liftM (readFlags? outer (← unreadText))
      modify fun cursor => { cursor with unread := rest, flags := changed }
      if hasBody then
        let body ← readBody fuel nesting
        modify fun cursor => { cursor with flags := outer }
        return body
      return .empty
    else
      let number ← openGroup
      return .group number (← readBody fuel nesting)

def readBody : Nat → Nat → PatternReader Expression
  | 0, _ => failure
  | fuel + 1, nesting => do
    let body ← readChoice fuel nesting
    closeGroup
    return body

def readNamedGroup : Nat → Nat → PatternReader Expression
  | 0, _ => failure
  | fuel + 1, nesting => do
    let number ← openGroup
    let name ← readName '>'
    modify fun cursor => { cursor with names := (name, number) :: cursor.names }
    return .group number (← readBody fuel nesting)

/-- Reads a conditional after the parenthesis that opens its condition. Only a reference may stand
without branches. -/
def readConditional : Nat → Nat → PatternReader Expression
  | 0, _ => failure
  | fuel + 1, nesting => do
    let condition ←
      match ← peek? with
      | none => failure
      | some first =>
        if isDigit first then numberedReference
        else if first = '\'' then do
          advance 1
          namedReference '\''
        else if first = '<' then do
          advance 1
          namedReference '>'
        else readChoice fuel nesting
    closeGroup
    let before := (← unreadText).length
    let body ← readChoice fuel nesting
    let isBare := (← unreadText).length == before
    closeGroup
    if isBare && !isReference condition then failure
    let (whenMatched, otherwise) := branches body
    if isBare || (whenMatched.isEmpty && otherwise.isEmpty) then return asCondition condition
    return .conditional (asCondition condition) whenMatched otherwise

end

def readExpression? (text : List Char) : Option (Expression × Nat) := do
  let (expression, cursor) ← (readChoice (8 * text.length + 16) 0).run { unread := text }
  if cursor.unread.isEmpty then some (expression, cursor.groups) else none

end Pattern

end EntitySchema
