import EntitySchema.Json.Basic
import EntitySchema.Text.Character
/-!
Writing JSON text without white space.

Doubles are written with the fewest digits that read back: in plain notation, always with a
fraction, from `0.00001` up to below `10 ^ 16`, and with a signed exponent outside.
-/

namespace EntitySchema

namespace Json

def scientific (digits : List Char) (exponent : Int) : List Char :=
  let sign := if exponent < 0 then '-' else '+'
  let mantissa :=
    match digits with
    | first :: second :: rest => first :: '.' :: second :: rest
    | short => short
  mantissa ++ ['e', sign] ++ decimalDigits exponent.natAbs

def decimalChars (decimal : Decimal) : List Char :=
  let digits := decimalDigits decimal.digits
  let magnitude : Int := digits.length + decimal.exponent
  if decimal.digits = 0 then ['0', '.', '0']
  else if -5 < magnitude ∧ magnitude ≤ 16 then
    if 0 ≤ decimal.exponent then decimal.positional ++ ['.', '0'] else decimal.positional
  else scientific digits (magnitude - 1)

/-- What is not finite has no JSON form and is written as `null`. -/
def fractionChars : Binary64 → List Char
  | .finite negative rank =>
    let magnitude := decimalChars (Decimal.shortest .toEven rank)
    if negative then '-' :: magnitude else magnitude
  | _ => "null".toList

def escapeJson (character : Char) : List Char :=
  if character = '"' then ['\\', '"']
  else if character = '\\' then ['\\', '\\']
  else if character.toNat = 8 then ['\\', 'b']
  else if character.toNat = 12 then ['\\', 'f']
  else if character = '\n' then ['\\', 'n']
  else if character = '\r' then ['\\', 'r']
  else if character = '\t' then ['\\', 't']
  else if character.toNat < 0x20 then '\\' :: 'u' :: hexDigits4 character.toNat
  else [character]

def stringChars (text : String) : List Char :=
  '"' :: text.toList.flatMap escapeJson ++ ['"']

mutual

def chars : Json → List Char
  | .null | .unusable => "null".toList
  | .bool true => "true".toList
  | .bool false => "false".toList
  | .integer value => signedDigits value
  | .fraction value => fractionChars value
  | .string value => stringChars value
  | .array items => '[' :: [','].intercalate (itemChars items) ++ [']']
  | .object fields => '{' :: [','].intercalate (fieldChars fields) ++ ['}']

def itemChars : List Json → List (List Char)
  | [] => []
  | item :: rest => chars item :: itemChars rest

def fieldChars : List (String × Json) → List (List Char)
  | [] => []
  | (key, value) :: rest => (stringChars key ++ ':' :: chars value) :: fieldChars rest

end

def text (json : Json) : String := String.ofList json.chars

end Json

end EntitySchema
