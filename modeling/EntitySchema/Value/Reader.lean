import EntitySchema.Value.Basic
import EntitySchema.Naming
/-!
Reading a literal expression back into a value.

The reader takes what the writer produces for values without source fragments, and also white
space between tokens and a comma after the last item or member. A failure keeps the text that was
still unread, from which the offset of the error is computed, so an error always points between
two characters.
-/

namespace EntitySchema

namespace Value

inductive ReadFault where
  | endOfInput
  | unexpectedCharacter (found : Char)
  | unexpectedIdentifier (word : List Char)
  | expected (wanted : Char) (found : Option Char)
  | expectedKey
  | expectedAfterMember
  | expectedAfterItem
  | unterminatedString
  | invalidEscape
  | truncatedUnicode
  | invalidUnicode
  | invalidScalar
  | invalidNumber (token : List Char)
  | trailingInput
  deriving DecidableEq, Repr

def ReadFault.message : ReadFault → String
  | .endOfInput => "unexpected end of input"
  | .unexpectedCharacter found => "unexpected character '" ++ String.ofList [found] ++ "'"
  | .unexpectedIdentifier word => "unexpected identifier '" ++ String.ofList word ++ "'"
  | .expected wanted (some found) =>
    "expected '" ++ String.ofList [wanted] ++ "', found '" ++ String.ofList [found] ++ "'"
  | .expected wanted none => "expected '" ++ String.ofList [wanted] ++ "', found end of input"
  | .expectedKey => "expected property name"
  | .expectedAfterMember => "expected ',' or '\x7d'"
  | .expectedAfterItem => "expected ',' or ']'"
  | .unterminatedString => "unterminated string"
  | .invalidEscape => "invalid escape sequence"
  | .truncatedUnicode => "truncated unicode escape"
  | .invalidUnicode => "invalid unicode escape"
  | .invalidScalar => "invalid unicode scalar"
  | .invalidNumber token => "invalid number '" ++ String.ofList token ++ "'"
  | .trailingInput => "unexpected trailing input"

/-- A fault, and the text that was unread when it was found. -/
structure ReadFailure where
  unread : List Char
  fault : ReadFault
  deriving DecidableEq, Repr

abbrev Reading (α : Type) := Except ReadFailure α

/-! ## Strings -/

def simpleEscape? (letter : Char) : Option Char :=
  if letter = '"' ∨ letter = '\\' ∨ letter = '/' then some letter
  else if letter = 'n' then some '\n'
  else if letter = 'r' then some '\r'
  else if letter = 't' then some '\t'
  else none

/-- The code point spelled by the four characters of an escape. They are hexadecimal digits, of
which the first may be a plus sign. -/
def escapedCode? : List Char → Option Nat
  | '+' :: digits => valueOfHexDigits? digits
  | digits => valueOfHexDigits? digits

def hasBoundaryAt : Nat → List Char → Bool
  | 0, _ => true
  | _ + 1, [] => false
  | bytes + 1, character :: rest =>
    character.utf8Size ≤ bytes + 1 && hasBoundaryAt (bytes + 1 - character.utf8Size) rest

/-- What is wrong with an escape whose digits start at the front of the text: an escape is four
bytes long, and is truncated if there is no such piece of text. -/
def unicodeFailure (text : List Char) : ReadFailure :=
  { unread := text, fault := if hasBoundaryAt 4 text then .invalidUnicode else .truncatedUnicode }

def prependCharacter (character : Char) :
    Reading (List Char × List Char) → Reading (List Char × List Char)
  | .ok (rest, unread) => .ok (character :: rest, unread)
  | .error failure => .error failure

def readString : List Char → Reading (List Char × List Char)
  | [] => .error { unread := [], fault := .unterminatedString }
  | first :: rest =>
    if first = '"' then .ok ([], rest)
    else if first = '\\' then
      match rest with
      | [] => .error { unread := [], fault := .invalidEscape }
      | letter :: afterLetter =>
        if letter = 'u' then
          match afterLetter with
          | first :: second :: third :: fourth :: afterCode =>
            match escapedCode? [first, second, third, fourth] with
            | some code =>
              match charOfCode? code with
              | some character => prependCharacter character (readString afterCode)
              | none => .error { unread := afterCode, fault := .invalidScalar }
            | none => .error (unicodeFailure afterLetter)
          | _ => .error (unicodeFailure afterLetter)
        else
          match simpleEscape? letter with
          | some character => prependCharacter character (readString afterLetter)
          | none => .error { unread := afterLetter, fault := .invalidEscape }
    else prependCharacter first (readString rest)

/-! ## Numbers -/

/-- The characters of a number token, which need not form a number. A minus sign may stand inside
a token once a fraction, an exponent or a plus sign has begun. -/
def scanNumber (fractional : Bool) : List Char → (Bool × List Char) × List Char
  | [] => ((fractional, []), [])
  | first :: rest =>
    let continueWith (fractional : Bool) :=
      let ((fractional, token), unread) := scanNumber fractional rest
      ((fractional, first :: token), unread)
    if isDigit first then continueWith fractional
    else if first = '.' ∨ first = 'e' ∨ first = 'E' ∨ first = '+' then continueWith true
    else if first = '-' ∧ fractional then continueWith fractional
    else ((fractional, []), first :: rest)

def int64OfToken? : List Char → Option Int64
  | '-' :: digits => if digits.isEmpty then none else int64OfInt? (-(valueOfDigits digits : Int))
  | digits => if digits.isEmpty then none else int64OfInt? (valueOfDigits digits)

def numberOfToken? (fractional : Bool) (token : List Char) : Option Number :=
  match if fractional then none else int64OfToken? token with
  | some value => some (.int value)
  | none => (Binary64.read? token).map .float

def scanSignedNumber : List Char → (Bool × List Char) × List Char
  | '-' :: rest =>
    let ((fractional, token), unread) := scanNumber false rest
    ((fractional, '-' :: token), unread)
  | unsigned => scanNumber false unsigned

def readNumber (text : List Char) : Reading (Number × List Char) :=
  let ((fractional, token), unread) := scanSignedNumber text
  match numberOfToken? fractional token with
  | some value => .ok (value, unread)
  | none => .error { unread, fault := .invalidNumber token }

/-! ## Values -/

def wordValue? (word : List Char) : Option Value :=
  if word = "true".toList then some (.bool true)
  else if word = "false".toList then some (.bool false)
  else if word = "null".toList then some .null
  else if word = "undefined".toList then some .undefined
  else none

def readWord (text : List Char) : Reading (Value × List Char) :=
  let word := text.takeWhile isIdentifierPart
  let unread := text.dropWhile isIdentifierPart
  match wordValue? word with
  | some value => .ok (value, unread)
  | none => .error { unread, fault := .unexpectedIdentifier word }

def readKey : List Char → Reading (List Char × List Char)
  | [] => .error { unread := [], fault := .expectedKey }
  | first :: rest =>
    if first = '"' then readString rest
    else if isIdentifierStart first then
      .ok ((first :: rest).takeWhile isIdentifierPart, (first :: rest).dropWhile isIdentifierPart)
    else .error { unread := first :: rest, fault := .expectedKey }

def expect (wanted : Char) (text : List Char) : Reading (List Char) :=
  match skipBlank text with
  | [] => .error { unread := [], fault := .expected wanted none }
  | first :: rest =>
    if first = wanted then .ok rest
    else .error { unread := rest, fault := .expected wanted (some first) }

def readSeparator (close : Char) (fault : ReadFault) (text : List Char) :
    Reading (Bool × List Char) :=
  match skipBlank text with
  | [] => .error { unread := [], fault }
  | first :: rest =>
    if first = ',' then .ok (true, rest)
    else if first = close then .ok (false, rest)
    else .error { unread := rest, fault }

mutual

/-- Reads a value from the front of the text. A step into a value takes a unit of fuel, a step to
an item or a member another one, and between two steps into values at least one character is
read, so `2 * length + 1` units are enough for a text of that length. -/
def readValue : Nat → List Char → Reading (Value × List Char)
  | 0, input => .error { unread := input, fault := .endOfInput }
  | fuel + 1, input =>
    match skipBlank input with
    | [] => .error { unread := [], fault := .endOfInput }
    | first :: rest =>
      if first = '{' then do
        let (members, unread) ← readMembers fuel rest
        return (.record (Record.ofPairs members), unread)
      else if first = '[' then do
        let (items, unread) ← readItems fuel rest
        return (.list items, unread)
      else if first = '"' then do
        let (characters, unread) ← readString rest
        return (.text (String.ofList characters), unread)
      else if first = '-' ∨ isDigit first then do
        let (value, unread) ← readNumber (first :: rest)
        return (.number value, unread)
      else if first.isAlpha then readWord (first :: rest)
      else .error { unread := first :: rest, fault := .unexpectedCharacter first }

def readItems : Nat → List Char → Reading (List Value × List Char)
  | 0, input => .error { unread := input, fault := .endOfInput }
  | fuel + 1, input =>
    match skipBlank input with
    | ']' :: rest => .ok ([], rest)
    | remaining => do
      let (item, afterItem) ← readValue fuel remaining
      let (another, unread) ← readSeparator ']' .expectedAfterItem afterItem
      if another then
        let (items, unread) ← readItems fuel unread
        return (item :: items, unread)
      else return ([item], unread)

def readMembers : Nat → List Char → Reading (List (String × Value) × List Char)
  | 0, input => .error { unread := input, fault := .endOfInput }
  | fuel + 1, input =>
    match skipBlank input with
    | '}' :: rest => .ok ([], rest)
    | remaining => do
      let (key, afterKey) ← readKey remaining
      let afterColon ← expect ':' afterKey
      let (value, afterValue) ← readValue fuel afterColon
      let (another, unread) ← readSeparator '}' .expectedAfterMember afterValue
      if another then
        let (members, unread) ← readMembers fuel unread
        return ((String.ofList key, value) :: members, unread)
      else return ([(String.ofList key, value)], unread)

end

structure ReadError where
  offset : Nat
  fault : ReadFault
  deriving DecidableEq, Repr

def ReadError.message (error : ReadError) : String :=
  "parse error at offset " ++ Nat.repr error.offset ++ ": " ++ error.fault.message

def readChars (text : List Char) : Reading Value := do
  let (value, unread) ← readValue (2 * text.length + 1) text
  match skipBlank unread with
  | [] => return value
  | trailing => throw { unread := trailing, fault := .trailingInput }

def read (text : String) : Except ReadError Value :=
  match readChars text.toList with
  | .ok value => .ok value
  | .error failure =>
    .error {
      offset := utf8Length text.toList - utf8Length failure.unread
      fault := failure.fault }

end Value

end EntitySchema
