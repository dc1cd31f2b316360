import EntitySchema.DateTime.Calendar
import EntitySchema.Text.Character
import EntitySchema.Toml.Table
/-!
Reading TOML documents.

Strings, booleans, integers, arrays and tables are read, of which settings are made. Numbers with a
fraction, dates and times are read as well, but are not usable. A document with an array that is
made of headers is refused.
-/

namespace EntitySchema

namespace Toml

/-! ## Layout -/

def isForbidden (character : Char) : Bool :=
  (character.toNat < 0x20 && character != '\t') || character.toNat == 0x7F

def skipSpace (text : List Char) : List Char :=
  text.dropWhile fun character => character == ' ' || character == '\t'

def dropNewline? : List Char → Option (List Char)
  | '\n' :: rest => some rest
  | '\r' :: '\n' :: rest => some rest
  | _ => none

def dropComment? : List Char → Option (List Char)
  | '#' :: rest =>
    let comment := rest.takeWhile fun character => character != '\n' && character != '\r'
    if comment.any isForbidden then none else some (rest.drop comment.length)
  | text => some text

def dropLineEnd? (text : List Char) : Option (List Char) := do
  let text ← dropComment? (skipSpace text)
  if text.isEmpty then some [] else dropNewline? text

def skipLayout? : Nat → List Char → Option (List Char)
  | 0, _ => none
  | fuel + 1, text => do
    let text ← dropComment? (skipSpace text)
    match dropNewline? text with
    | some rest => skipLayout? fuel rest
    | none => some text

/-! ## Strings -/

def readCode? (count : Nat) (text : List Char) : Option (Char × List Char) := do
  let digits := text.take count
  if digits.length < count then none
  let character ← charOfCode? (← valueOfHexDigits? digits)
  return (character, text.drop count)

def readEscape? : List Char → Option (Char × List Char)
  | 'b' :: rest => some ('\x08', rest)
  | 't' :: rest => some ('\t', rest)
  | 'n' :: rest => some ('\n', rest)
  | 'f' :: rest => some ('\x0c', rest)
  | 'r' :: rest => some ('\r', rest)
  | 'e' :: rest => some ('\x1b', rest)
  | '"' :: rest => some ('"', rest)
  | '\\' :: rest => some ('\\', rest)
  | 'x' :: rest => readCode? 2 rest
  | 'u' :: rest => readCode? 4 rest
  | 'U' :: rest => readCode? 8 rest
  | _ => none

def readBasic? : Nat → List Char → Option (List Char × List Char)
  | 0, _ => none
  | _ + 1, [] => none
  | _ + 1, '"' :: rest => some ([], rest)
  | fuel + 1, '\\' :: rest => do
    let (character, rest) ← readEscape? rest
    let (characters, rest) ← readBasic? fuel rest
    return (character :: characters, rest)
  | fuel + 1, character :: rest => do
    if isForbidden character then none
    let (characters, rest) ← readBasic? fuel rest
    return (character :: characters, rest)

def readLiteral? (text : List Char) : Option (List Char × List Char) :=
  let characters := text.takeWhile fun character => character != '\''
  match text.drop characters.length with
  | _ :: rest => if characters.any isForbidden then none else some (characters, rest)
  | [] => none

/-- The quotes at the start of a text in a string of several lines. Three or more end the string;
of those, the first two may still belong to it. -/
def readQuotes (quote : Char) (text : List Char) : Bool × List Char × List Char :=
  let run := text.takeWhile fun character => character == quote
  if run.length < 3 then (false, run, text.drop run.length)
  else
    let length := min run.length 5
    (true, List.replicate (length - 3) quote, text.drop length)

def skipBlankLines : List Char → List Char
  | ' ' :: rest => skipBlankLines rest
  | '\t' :: rest => skipBlankLines rest
  | '\n' :: rest => skipBlankLines rest
  | '\r' :: '\n' :: rest => skipBlankLines rest
  | text => text

/-- The rest after a backslash at the end of a line, from the next character that is no white space
on. -/
def dropLineBreak? (text : List Char) : Option (List Char) :=
  (dropNewline? (skipSpace text)).map skipBlankLines

/-- A string of several lines, after its opening quotes. Only double quotes allow escapes. -/
def readLines? (quote : Char) : Nat → List Char → Option (List Char × List Char)
  | 0, _ => none
  | _ + 1, [] => none
  | fuel + 1, '\r' :: '\n' :: rest => do
    let (characters, rest) ← readLines? quote fuel rest
    return ('\r' :: '\n' :: characters, rest)
  | fuel + 1, character :: rest =>
    if character = quote then
      match readQuotes quote (character :: rest) with
      | (true, quotes, rest) => some (quotes, rest)
      | (false, quotes, rest) => do
        let (characters, rest) ← readLines? quote fuel rest
        return (quotes ++ characters, rest)
    else if character = '\\' ∧ quote = '"' then
      match dropLineBreak? rest with
      | some rest => readLines? quote fuel rest
      | none => do
        let (escaped, rest) ← readEscape? rest
        let (characters, rest) ← readLines? quote fuel rest
        return (escaped :: characters, rest)
    else if isForbidden character && character != '\n' then none
    else do
      let (characters, rest) ← readLines? quote fuel rest
      return (character :: characters, rest)

def dropFirstNewline (text : List Char) : List Char := (dropNewline? text).getD text

def readString? : List Char → Option (String × List Char)
  | '"' :: '"' :: '"' :: rest =>
    (readLines? '"' (rest.length + 1) (dropFirstNewline rest)).map fun (characters, rest) =>
      (String.ofList characters, rest)
  | '"' :: rest =>
    (readBasic? (rest.length + 1) rest).map fun (characters, rest) =>
      (String.ofList characters, rest)
  | '\'' :: '\'' :: '\'' :: rest =>
    (readLines? '\'' (rest.length + 1) (dropFirstNewline rest)).map fun (characters, rest) =>
      (String.ofList characters, rest)
  | '\'' :: rest =>
    (readLiteral? rest).map fun (characters, rest) => (String.ofList characters, rest)
  | _ => none

/-! ## Integers and booleans -/

def plainDigits? (isDigit : Char → Bool) : Bool → List Char → Option (List Char)
  | afterDigit, [] => if afterDigit then some [] else none
  | afterDigit, character :: rest =>
    if character = '_' then
      if afterDigit then plainDigits? isDigit false rest else none
    else if isDigit character then (plainDigits? isDigit true rest).map (character :: ·)
    else none

def isDigitBelow (base : Nat) (character : Char) : Bool :=
  match hexDigitValue? character with
  | some value => value < base
  | none => false

def readDigits? (base : Nat) (digits : List Char) : Option Nat := do
  let digits ← plainDigits? (isDigitBelow base) false digits
  return digits.foldl (fun value digit => base * value + (hexDigitValue? digit).getD 0) 0

def readDecimal? : List Char → Option Nat
  | '0' :: _ :: _ => none
  | digits => readDigits? 10 digits

def readInteger? : List Char → Option Int
  | '0' :: 'x' :: digits => (readDigits? 16 digits).map Int.ofNat
  | '0' :: 'o' :: digits => (readDigits? 8 digits).map Int.ofNat
  | '0' :: 'b' :: digits => (readDigits? 2 digits).map Int.ofNat
  | '-' :: digits => (readDecimal? digits).map fun value => -(value : Int)
  | '+' :: digits => (readDecimal? digits).map Int.ofNat
  | digits => (readDecimal? digits).map Int.ofNat

/-! ## Fractions, dates and times -/

def takeFigures (text : List Char) : List Char × List Char :=
  text.span fun character => character.isDigit || character == '_'

def areFigures (text : List Char) : Bool := (readDigits? 10 text).isSome

def isExponent : List Char → Bool
  | mark :: rest =>
    (mark == 'e' || mark == 'E') &&
      match rest with
      | '+' :: digits | '-' :: digits => areFigures digits
      | digits => areFigures digits
  | [] => false

def isUnsignedFraction (text : List Char) : Bool :=
  let (whole, rest) := takeFigures text
  text == "inf".toList || text == "nan".toList ||
    (readDecimal? whole).isSome &&
      match rest with
      | '.' :: rest =>
        let (places, rest) := takeFigures rest
        areFigures places && (rest.isEmpty || isExponent rest)
      | rest => isExponent rest

def isFraction : List Char → Bool
  | '+' :: rest | '-' :: rest => isUnsignedFraction rest
  | text => isUnsignedFraction text

def takeNumber? (count : Nat) (text : List Char) : Option (Nat × List Char) :=
  let digits := text.take count
  if digits.length == count && digits.all Char.isDigit then
    (readDigits? 10 digits).map fun value => (value, text.drop count)
  else none

def dropMark? (mark : Char) : List Char → Option (List Char)
  | first :: rest => if first = mark then some rest else none
  | [] => none

def dropDate? (text : List Char) : Option (List Char) := do
  let (year, text) ← takeNumber? 4 text
  let (month, text) ← takeNumber? 2 (← dropMark? '-' text)
  let (day, text) ← takeNumber? 2 (← dropMark? '-' text)
  if (CalendarDate.monthDay year month day).isValid then some text else none

def dropSubsecond? : List Char → Option (List Char)
  | '.' :: text =>
    let (digits, rest) := text.span Char.isDigit
    if digits.isEmpty then none else some rest
  | text => some text

def dropTime? (text : List Char) : Option (List Char) := do
  let (hour, text) ← takeNumber? 2 text
  let (minute, text) ← takeNumber? 2 (← dropMark? ':' text)
  if hour > 23 || minute > 59 then none
  match text with
  | ':' :: text =>
    let (second, text) ← takeNumber? 2 text
    if second > 60 then none
    dropSubsecond? text
  | text => some text

def dropOffset? : List Char → Option (List Char)
  | 'Z' :: rest | 'z' :: rest => some rest
  | sign :: text =>
    if sign = '+' ∨ sign = '-' then do
      let (hour, text) ← takeNumber? 2 text
      let (minute, text) ← takeNumber? 2 (← dropMark? ':' text)
      if hour > 23 || minute > 59 then none
      return text
    else some (sign :: text)
  | [] => some []

/-- What follows a date, a time or both. Between the two stands a letter or a space. -/
def dropMoment? (text : List Char) : Option (List Char) :=
  match dropDate? text with
  | none => dropTime? text
  | some afterDate =>
    match afterDate with
    | separator :: rest =>
      if separator = 'T' ∨ separator = 't' then (dropTime? rest).bind dropOffset?
      else if separator = ' ' then
        if (rest.head?.map Char.isDigit).getD false then (dropTime? rest).bind dropOffset?
        else some afterDate
      else some afterDate
    | [] => some []

/-! ## Words -/

def isWordPart (character : Char) : Bool :=
  character.isAlphanum || character == '_' || character == '+' || character == '-' ||
    character == '.' || character == ':'

def readWord? (text : List Char) : Option (Json × List Char) :=
  let (word, rest) := text.span isWordPart
  if word = "true".toList then some (.bool true, rest)
  else if word = "false".toList then some (.bool false, rest)
  else
    match readInteger? word with
    | some value => some (.integer value, rest)
    | none =>
      if isFraction word then some (.unusable, rest)
      else
        match dropMoment? text with
        | some rest =>
          if (rest.head?.map isWordPart).getD false then none else some (.unusable, rest)
        | none => none

/-! ## Keys -/

def isBareKeyCharacter (character : Char) : Bool :=
  character.isAlphanum || character == '_' || character == '-'

def readSimpleKey? : List Char → Option (String × List Char)
  | '"' :: rest =>
    (readBasic? (rest.length + 1) rest).map fun (characters, rest) =>
      (String.ofList characters, rest)
  | '\'' :: rest =>
    (readLiteral? rest).map fun (characters, rest) => (String.ofList characters, rest)
  | text =>
    let key := text.takeWhile isBareKeyCharacter
    if key.isEmpty then none else some (String.ofList key, text.drop key.length)

def readKey? : Nat → List Char → Option (List String × List Char)
  | 0, _ => none
  | fuel + 1, text => do
    let (key, rest) ← readSimpleKey? (skipSpace text)
    match skipSpace rest with
    | '.' :: rest =>
      let (keys, rest) ← readKey? fuel rest
      return (key :: keys, rest)
    | rest => return ([key], rest)

/-! ## Values and documents -/

mutual

def readNode? : Nat → List Char → Option (Node × List Char)
  | 0, _ => none
  | fuel + 1, text =>
    match text with
    | '{' :: rest => do
      let (entries, rest) ← readEntries? fuel [] rest
      return (.table .inline entries, rest)
    | '[' :: rest => do
      let (items, rest) ← readItems? fuel rest
      return (.leaf (.array items), rest)
    | '"' :: _ | '\'' :: _ =>
      (readString? text).map fun (value, rest) => (.leaf (.string value), rest)
    | _ => (readWord? text).map fun (value, rest) => (.leaf value, rest)

def readItems? : Nat → List Char → Option (List Json × List Char)
  | 0, _ => none
  | fuel + 1, text => do
    match ← skipLayout? (text.length + 1) text with
    | ']' :: rest => return ([], rest)
    | text =>
      let (node, rest) ← readNode? fuel text
      match ← skipLayout? (rest.length + 1) rest with
      | ',' :: rest =>
        let (items, rest) ← readItems? fuel rest
        return (node.toJson :: items, rest)
      | ']' :: rest => return ([node.toJson], rest)
      | _ => none

def readEntries? : Nat → Entries → List Char → Option (Entries × List Char)
  | 0, _, _ => none
  | fuel + 1, entries, text => do
    match ← skipLayout? (text.length + 1) text with
    | '}' :: rest => return (entries, rest)
    | text =>
      let (keys, rest) ← readKey? (text.length + 1) text
      match ← skipLayout? (rest.length + 1) rest with
      | '=' :: rest =>
        let (node, rest) ← readNode? fuel (← skipLayout? (rest.length + 1) rest)
        let entries ← entries.add node keys
        match ← skipLayout? (rest.length + 1) rest with
        | ',' :: rest => readEntries? fuel entries rest
        | '}' :: rest => return (entries, rest)
        | _ => none
      | _ => none

end

def readDocument? : Nat → List String → Entries → List Char → Option Entries
  | 0, _, _, _ => none
  | fuel + 1, header, entries, text =>
    match skipSpace text with
    | [] => some entries
    | '[' :: rest => do
      let (keys, rest) ← readKey? (rest.length + 1) rest
      match rest with
      | ']' :: rest =>
        let rest ← dropLineEnd? rest
        let entries ← entries.openTable keys
        readDocument? fuel keys entries rest
      | _ => none
    | text =>
      if text.head? = some '#' ∨ (dropNewline? text).isSome then do
        readDocument? fuel header entries (← dropLineEnd? text)
      else do
        let (keys, rest) ← readKey? (text.length + 1) text
        match rest with
        | '=' :: rest =>
          let (node, rest) ← readNode? (2 * rest.length + 1) (skipSpace rest)
          let rest ← dropLineEnd? rest
          let entries ← entries.addBelow node keys header
          readDocument? fuel header entries rest
        | _ => none

def dropByteOrderMark : List Char → List Char
  | '﻿' :: rest => rest
  | text => text

def read? (text : String) : Option Json :=
  let text := dropByteOrderMark text.toList
  (readDocument? (text.length + 1) [] [] text).map fun entries => .object (entriesToJson entries)

end Toml

end EntitySchema
