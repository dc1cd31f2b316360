import EntitySchema.Attribute.TypeExpression
import EntitySchema.Value.Writer
/-!
Why a model cannot be compiled, and where.

A location is a path of an entity and one of its properties or indexes. An error may arise without
one; the first caller that knows where it is adds it.
-/

namespace EntitySchema

inductive CompileFault where
  | unsupportedType (type reason : String)
  | unsupportedValue (reason : String)
  | invalidTimestampType (found : String)
  | notAnEntity (reason : String)
  | invalidReference (entity index property : String)
  | invalidPattern (pattern : String) (reason : Option String)
  deriving DecidableEq, Repr

inductive CompileError where
  | located (location : String) (fault : CompileFault)
  | duplicateEntity (entity : String)
  deriving DecidableEq, Repr

namespace CompileFault

def kindName : CompileFault → String
  | .unsupportedType .. => "unsupported_type"
  | .unsupportedValue _ => "unsupported_value"
  | .invalidTimestampType _ => "invalid_timestamp_type"
  | .notAnEntity _ => "not_an_entity"
  | .invalidReference .. => "invalid_access_pattern_reference"
  | .invalidPattern .. => "invalid_pattern"

def message (place : String) : CompileFault → String
  | .unsupportedType type reason =>
    "unsupported type '" ++ type ++ "' at " ++ place ++ ": " ++ reason
  | .unsupportedValue reason =>
    "unrenderable value at " ++ place ++ ": unsupported value: " ++ reason
  | .invalidTimestampType found =>
    "timestamp property " ++ place ++ " must map to a number, found " ++ found
  | .notAnEntity reason => place ++ " is not an entity: " ++ reason
  | .invalidReference entity index property =>
    "index '" ++ index ++ "' at " ++ place ++ " references '" ++ property ++
      "', which is not a property of entity '" ++ entity ++ "'"
  | .invalidPattern pattern reason =>
    let explanation :=
      match reason with
      | some reason => ": " ++ reason
      | none => ""
    "invalid pattern '" ++ pattern ++ "' at " ++ place ++ explanation

end CompileFault

namespace CompileError

def unlocated (fault : CompileFault) : CompileError := .located "" fault

def ofMappingError (error : MappingError) : CompileError :=
  unlocated (.unsupportedType error.subject error.reason)

def ofGraphError (error : GraphError) : CompileError := ofMappingError (.graph error)

def ofWriteFault (fault : Value.WriteFault) : CompileError :=
  unlocated (.unsupportedValue fault.reason)

def kindName : CompileError → String
  | .located _ fault => fault.kindName
  | .duplicateEntity _ => "duplicate_entity"

/-- The location, where the error has one. It is empty as long as it is not known. -/
def location? : CompileError → Option String
  | .located location _ => some location
  | .duplicateEntity _ => none

/-- Adds a location unless a more specific one is known. -/
def inContext (location : String) : CompileError → CompileError
  | .located known fault => .located (if known.isEmpty then location else known) fault
  | .duplicateEntity entity => .duplicateEntity entity

def message : CompileError → String
  | .located location fault => fault.message (if location.isEmpty then "<model>" else location)
  | .duplicateEntity entity => "duplicate entity name '" ++ entity ++ "'"

end CompileError

end EntitySchema
