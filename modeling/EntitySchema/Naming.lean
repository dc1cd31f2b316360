import EntitySchema.Text.Character
/-!
The names that may stand in generated source: identifiers, the words reserved there, and the names
of entities.
-/

namespace EntitySchema

def isIdentifierStart (character : Char) : Bool :=
  character.isAlpha || character == '_' || character == '$'

def isIdentifierPart (character : Char) : Bool :=
  character.isAlphanum || character == '_' || character == '$'

def isIdentifierText : List Char → Bool
  | [] => false
  | first :: rest => isIdentifierStart first && rest.all isIdentifierPart

def isIdentifier (name : String) : Bool := isIdentifierText name.toList

def reservedWords : List String :=
  ["await", "break", "case", "catch", "class", "const", "continue", "debugger", "default",
    "delete", "do", "else", "enum", "export", "extends", "false", "finally", "for", "function",
    "if", "import", "in", "instanceof", "let", "new", "null", "return", "static", "super",
    "switch", "this", "throw", "true", "try", "typeof", "undefined", "var", "void", "while",
    "with", "yield"]

inductive NameFault where
  | empty
  | notAnIdentifier (name : String)
  | reserved (name : String)
  deriving DecidableEq, Repr

def NameFault.message : NameFault → String
  | .empty => "ident is empty"
  | .notAnIdentifier name => "'" ++ name ++ "' is not a valid identifier"
  | .reserved name => "the word '" ++ name ++ "' is reserved"

def nameFault? (name : String) : Option NameFault :=
  if name.isEmpty then some .empty
  else if !isIdentifier name then some (.notAnIdentifier name)
  else if reservedWords.contains name then some (.reserved name)
  else none

/-- The longest entity name, in bytes. -/
def maxEntityNameLength : Nat := 64

inductive EntityNameFault where
  | tooLong (name : String)
  | invalid (fault : NameFault)
  deriving DecidableEq, Repr

def EntityNameFault.message : EntityNameFault → String
  | .tooLong name =>
    "entity name '" ++ name ++ "' exceeds max length " ++ Nat.repr maxEntityNameLength
  | .invalid fault => "entity name " ++ fault.message

def entityNameFault? (name : String) : Option EntityNameFault :=
  if utf8Length name.toList > maxEntityNameLength then some (.tooLong name)
  else (nameFault? name).map .invalid

end EntitySchema
