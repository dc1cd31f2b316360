import EntitySchema.Naming
/-!
Double-quoted string literals and property names.

A literal escapes what would end it, what would break the line it stands on, and the control
characters, so that it is one token on one line whatever text it holds.
-/

namespace EntitySchema

/-- The characters that end a line in source text, apart from the control characters. -/
def isLineSeparator (character : Char) : Bool :=
  character.toNat == 0x2028 || character.toNat == 0x2029

def escapeCharacter (character : Char) : List Char :=
  if character = '"' then ['\\', '"']
  else if character = '\\' then ['\\', '\\']
  else if character = '\n' then ['\\', 'n']
  else if character = '\r' then ['\\', 'r']
  else if character = '\t' then ['\\', 't']
  else if isControl character || isLineSeparator character then
    '\\' :: 'u' :: hexDigits4 character.toNat
  else [character]

def quotedChars (text : List Char) : List Char :=
  '"' :: text.flatMap escapeCharacter ++ ['"']

def quote (text : String) : String := String.ofList (quotedChars text.toList)

def keyChars (key : String) : List Char :=
  if isIdentifier key then key.toList else quotedChars key.toList

def propertyKey (key : String) : String := String.ofList (keyChars key)

example : quotedChars ['a', '"', '\n'] = ['"', 'a', '\\', '"', '\\', 'n', '"'] := by decide

end EntitySchema
