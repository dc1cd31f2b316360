import EntitySchema.Json.Basic
import EntitySchema.Text.Character
/-!
Reading JSON text. The grammar is the strict one: no comments, no trailing commas, no control
characters inside strings, and nothing but white space around the value. Lone surrogates, numbers
beyond all doubles, and arrays and objects that nest deeper than `maxDepth` are read, but are not
usable.
-/

namespace EntitySchema

namespace Json

def maxDepth : Nat := 127

def isJsonBlank (character : Char) : Bool :=
  character == ' ' || character == '\n' || character == '\r' || character == '\t'

def skipJsonBlank (text : List Char) : List Char := text.dropWhile isJsonBlank

/-! ## Strings -/

def jsonEscape? (letter : Char) : Option Char :=
  if letter = '"' ∨ letter = '\\' ∨ letter = '/' then some letter
  else if letter = 'b' then some (Char.ofNat 8)
  else if letter = 'f' then some (Char.ofNat 12)
  else if letter = 'n' then some '\n'
  else if letter = 'r' then some '\r'
  else if letter = 't' then some '\t'
  else none

def isHighSurrogate (code : Nat) : Bool := 0xD800 ≤ code && code < 0xDC00

def isLowSurrogate (code : Nat) : Bool := 0xDC00 ≤ code && code < 0xE000

def charOfSurrogates (high low : Nat) : Char :=
  Char.ofNat (0x10000 + (high - 0xD800) * 0x400 + (low - 0xDC00))

/-- Puts a character in front of a text that has been read, unless that is unusable. Half of a
surrogate pair before the character makes the text unusable. -/
def putAfter (high : Option Nat) (character : Char) :
    Option (List Char) × List Char → Option (List Char) × List Char
  | (characters, unread) =>
    (if high.isSome then none else characters.map (character :: ·), unread)

def withoutText : Option (List Char) × List Char → Option (List Char) × List Char
  | (_, unread) => (none, unread)

/-- Reads the characters of a string up to the quote that ends it, after the first half of a
surrogate pair or not. There are none if half of a pair stands alone. -/
def readStringChars? (high : Option Nat) : List Char → Option (Option (List Char) × List Char)
  | [] => none
  | first :: rest =>
    if first = '"' then some (if high.isSome then none else some [], rest)
    else if first = '\\' then
      match rest with
      | 'u' :: a :: b :: c :: d :: afterCode =>
        match valueOfHexDigits? [a, b, c, d] with
        | none => none
        | some code =>
          if isHighSurrogate code then
            let unread := readStringChars? (some code) afterCode
            if high.isSome then unread.map withoutText else unread
          else if isLowSurrogate code then
            let unread := readStringChars? none afterCode
            match high with
            | some high => unread.map (putAfter none (charOfSurrogates high code))
            | none => unread.map withoutText
          else (readStringChars? none afterCode).map (putAfter high (Char.ofNat code))
      | letter :: afterLetter =>
        match jsonEscape? letter with
        | none => none
        | some character => (readStringChars? none afterLetter).map (putAfter high character)
      | [] => none
    else if first.toNat < 0x20 then none
    else (readStringChars? none rest).map (putAfter high first)

/-! ## Numbers

A number with a fraction or an exponent, or too long for a word, is a significand of 64 bits that
is then multiplied or divided by a power of ten, in double arithmetic. Digits that no longer fit
the significand count as zeros before the point and are dropped behind it. -/

def maxWord : Nat := UInt64.size - 1

structure Scaled where
  significand : Nat
  exponent : Int
  deriving DecidableEq, Repr

def appendDigit? (significand : Nat) (digit : Char) : Option Nat :=
  let appended := 10 * significand + digitValue digit
  if appended ≤ maxWord then some appended else none

def scaledWhole (significand : Nat) : List Char → Scaled
  | [] => { significand, exponent := 0 }
  | digit :: rest =>
    match appendDigit? significand digit with
    | some appended => scaledWhole appended rest
    | none => { significand, exponent := rest.length + 1 }

def scaledFraction (scaled : Scaled) : List Char → Scaled
  | [] => scaled
  | digit :: rest =>
    match appendDigit? scaled.significand digit with
    | some appended =>
      scaledFraction { significand := appended, exponent := scaled.exponent - 1 } rest
    | none => scaled

def powerOfTenUnits (power : Nat) : Nat :=
  match Binary64.ofRatio false (Nat.pow 10 power) 1 with
  | .finite _ rank => Binary64.unitsOfRank rank
  | _ => 0

def maxPowerOfTen : Nat := 308

def divideByPower (negative : Bool) (power : Nat) : Binary64 → Binary64
  | .finite _ rank =>
    Binary64.quotientOfUnits negative (Binary64.unitsOfRank rank) (powerOfTenUnits power)
  | value => value

def multiplyByPower (negative : Bool) (power : Nat) : Binary64 → Binary64
  | .finite _ rank =>
    Binary64.productOfUnits negative (Binary64.unitsOfRank rank) (powerOfTenUnits power)
  | value => value

def Scaled.toBinary64? (negative : Bool) (scaled : Scaled) : Option Binary64 :=
  let start := Binary64.ofRatio negative scaled.significand 1
  if scaled.significand = 0 then some start
  else if 0 ≤ scaled.exponent then
    let power := scaled.exponent.toNat
    if power > maxPowerOfTen then none
    else
      let product := multiplyByPower negative power start
      if product.isFinite then some product else none
  else
    let power := (-scaled.exponent).toNat
    if power ≤ maxPowerOfTen then some (divideByPower negative power start)
    else if power ≤ 2 * maxPowerOfTen then
      some (divideByPower negative (power - maxPowerOfTen)
        (divideByPower negative maxPowerOfTen start))
    else some (Binary64.ofRatio negative 0 1)

/-- The digits before the point: a zero, or a run that does not start with one. -/
def takeWhole? : List Char → Option (List Char × List Char)
  | '0' :: rest => some (['0'], rest)
  | text =>
    let digits := text.takeWhile isDigit
    if digits.isEmpty then none else some (digits, text.dropWhile isDigit)

def takeFraction? : List Char → Option (Option (List Char) × List Char)
  | '.' :: rest =>
    let digits := rest.takeWhile isDigit
    if digits.isEmpty then none else some (some digits, rest.dropWhile isDigit)
  | text => some (none, text)

def takeExponent? : List Char → Option (Option Int × List Char)
  | mark :: rest =>
    if mark = 'e' ∨ mark = 'E' then
      let (negative, text) := Decimal.takeSign rest
      let digits := text.takeWhile isDigit
      if digits.isEmpty then none
      else
        let value : Int := valueOfDigits digits
        some (some (if negative then -value else value), text.dropWhile isDigit)
    else some (none, mark :: rest)
  | [] => some (none, [])

/-- An integer token: a word of 64 bits, signed or unsigned, stays whole. Minus zero is a
double. -/
def ofIntegerToken? (negative : Bool) (digits : List Char) : Option Json :=
  let magnitude := valueOfDigits digits
  if negative then
    if magnitude = 0 then some (.fraction (Binary64.ofRatio true 0 1))
    else if magnitude ≤ 1 <<< 63 then some (.integer (-(magnitude : Int)))
    else ((scaledWhole 0 digits).toBinary64? true).map .fraction
  else if magnitude ≤ maxWord then some (.integer magnitude)
  else ((scaledWhole 0 digits).toBinary64? false).map .fraction

def readNumber? (text : List Char) : Option (Json × List Char) :=
  let (negative, unsigned) :=
    match text with
    | '-' :: rest => (true, rest)
    | unsigned => (false, unsigned)
  match takeWhole? unsigned with
  | none => none
  | some (whole, afterWhole) =>
    match takeFraction? afterWhole with
    | none => none
    | some (places, afterFraction) =>
      match takeExponent? afterFraction with
      | none => none
      | some (exponent, unread) =>
        let number :=
          match places, exponent with
          | none, none => ofIntegerToken? negative whole
          | _, _ =>
            let scaled := scaledFraction (scaledWhole 0 whole) (places.getD [])
            let shifted := { scaled with exponent := scaled.exponent + exponent.getD 0 }
            (shifted.toBinary64? negative).map .fraction
        some (number.getD .unusable, unread)

/-! ## Values -/

def dropWord? : List Char → List Char → Option (List Char)
  | [], text => some text
  | _ :: _, [] => none
  | letter :: letters, first :: rest => if letter = first then dropWord? letters rest else none

def readWord? (word : String) (value : Json) (text : List Char) : Option (Json × List Char) :=
  (dropWord? word.toList text).map fun unread => (value, unread)

/-- What an array or an object is worth that may nest as deep as given. -/
def nestedWithin (depth : Nat) (json : Json) : Json := if depth = 0 then .unusable else json

def ofFields? : Option (List (String × Json)) → Json
  | some fields => .object fields
  | none => .unusable

mutual

/-- Reads a value. The fuel bounds the number of steps, and the depth the nesting. -/
def readValue? : Nat → Nat → List Char → Option (Json × List Char)
  | 0, _, _ => none
  | fuel + 1, depth, text =>
    match skipJsonBlank text with
    | [] => none
    | first :: rest =>
      if first = '{' then
        match skipJsonBlank rest with
        | '}' :: unread => some (nestedWithin depth (.object []), unread)
        | members =>
          (readMembers? fuel (depth - 1) members).map fun (fields, unread) =>
            (nestedWithin depth (ofFields? fields), unread)
      else if first = '[' then
        match skipJsonBlank rest with
        | ']' :: unread => some (nestedWithin depth (.array []), unread)
        | elements =>
          (readItems? fuel (depth - 1) elements).map fun (items, unread) =>
            (nestedWithin depth (.array items), unread)
      else if first = '"' then
        (readStringChars? none rest).map fun (characters, unread) =>
          match characters with
          | some characters => (.string (String.ofList characters), unread)
          | none => (.unusable, unread)
      else if first = 't' then readWord? "true" (.bool true) (first :: rest)
      else if first = 'f' then readWord? "false" (.bool false) (first :: rest)
      else if first = 'n' then readWord? "null" .null (first :: rest)
      else readNumber? (first :: rest)

def readItems? : Nat → Nat → List Char → Option (List Json × List Char)
  | 0, _, _ => none
  | fuel + 1, depth, text =>
    match readValue? fuel depth text with
    | none => none
    | some (item, afterItem) =>
      match skipJsonBlank afterItem with
      | ',' :: rest =>
        (readItems? fuel depth rest).map fun (items, unread) => (item :: items, unread)
      | ']' :: unread => some ([item], unread)
      | _ => none

/-- Reads one or more members and the brace after them. There are no fields if a key is
unusable. -/
def readMembers? : Nat → Nat → List Char → Option (Option (List (String × Json)) × List Char)
  | 0, _, _ => none
  | fuel + 1, depth, text =>
    match skipJsonBlank text with
    | '"' :: afterQuote =>
      match readStringChars? none afterQuote with
      | none => none
      | some (key, afterKey) =>
        match skipJsonBlank afterKey with
        | ':' :: afterColon =>
          match readValue? fuel depth afterColon with
          | none => none
          | some (value, afterValue) =>
            let field := key.map fun characters => (String.ofList characters, value)
            match skipJsonBlank afterValue with
            | ',' :: rest =>
              (readMembers? fuel depth rest).map fun (fields, unread) =>
                (field.bind fun first => fields.map (first :: ·), unread)
            | '}' :: unread => some (field.map ([·]), unread)
            | _ => none
        | _ => none
    | _ => none

end

def read? (text : String) : Option Json :=
  let characters := text.toList
  match readValue? (2 * characters.length + 1) maxDepth characters with
  | some (json, unread) => if (skipJsonBlank unread).isEmpty then some json else none
  | none => none

end Json

end EntitySchema
