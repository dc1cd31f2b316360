/-!
Classes of characters and measures of text that do not depend on the program's own formats.
-/

namespace EntitySchema

def isBlank (character : Char) : Bool :=
  let code := character.toNat
  (9 ≤ code && code ≤ 13) || code == 0x20 || code == 0x85 || code == 0xA0 || code == 0x1680 ||
    (0x2000 ≤ code && code ≤ 0x200A) || code == 0x2028 || code == 0x2029 || code == 0x202F ||
    code == 0x205F || code == 0x3000

example : [' ', '\t', '\n', ' ', '　'].all isBlank = true := by decide
example : ['a', '​', '\u0000'].any isBlank = false := by decide

def isControl (character : Char) : Bool :=
  let code := character.toNat
  code < 0x20 || (0x7F ≤ code && code ≤ 0x9F)

def skipBlank (text : List Char) : List Char := text.dropWhile isBlank

def isBlankText (text : String) : Bool := text.toList.all isBlank

def utf8Length (text : List Char) : Nat :=
  text.foldr (fun character length => character.utf8Size + length) 0

def utf16Size (character : Char) : Nat := if character.toNat ≤ 0xFFFF then 1 else 2

def utf16Length (text : List Char) : Nat :=
  text.foldr (fun character length => utf16Size character + length) 0

def hexDigits4 (value : Nat) : List Char :=
  [Nat.digitChar (value / 4096 % 16), Nat.digitChar (value / 256 % 16),
    Nat.digitChar (value / 16 % 16), Nat.digitChar (value % 16)]

example : hexDigits4 0x2028 = ['2', '0', '2', '8'] := by decide

def hexDigitValue? (character : Char) : Option Nat :=
  if '0' ≤ character ∧ character ≤ '9' then some (character.toNat - '0'.toNat)
  else if 'a' ≤ character ∧ character ≤ 'f' then some (character.toNat - 'a'.toNat + 10)
  else if 'A' ≤ character ∧ character ≤ 'F' then some (character.toNat - 'A'.toNat + 10)
  else none

def valueOfHexDigits? (digits : List Char) : Option Nat :=
  digits.foldlM (fun value digit => (hexDigitValue? digit).map (16 * value + ·)) 0

def charOfCode? (code : Nat) : Option Char :=
  if code.isValidChar then some (Char.ofNat code) else none

end EntitySchema
