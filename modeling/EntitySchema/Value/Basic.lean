import EntitySchema.Number.Basic
import EntitySchema.Record
/-!
The values that generated source is written from: data, and fragments of source code that stand
for themselves.
-/

namespace EntitySchema

inductive Value where
  | undefined
  | null
  | bool (value : Bool)
  | number (value : Number)
  | text (value : String)
  | list (items : List Value)
  | record (fields : List (String × Value))
  | source (code : String)
  deriving Repr, Inhabited

namespace Value

def kindName : Value → String
  | .undefined => "undefined"
  | .null => "null"
  | .bool _ => "boolean"
  | .number _ => "number"
  | .text _ => "string"
  | .list _ => "array"
  | .record _ => "record"
  | .source _ => "source"

def ofLiteral : Literal → Value
  | .text value => .text value
  | .number value => .number value

def isComposite : Value → Bool
  | .list _ => true
  | .record _ => true
  | _ => false

/-! Equality compares numbers by value and records entry by entry, so the order of entries
counts. -/

mutual

def equals : Value → Value → Bool
  | .undefined, .undefined => true
  | .null, .null => true
  | .bool left, .bool right => left == right
  | .number left, .number right => left.equals right
  | .text left, .text right => left == right
  | .list left, .list right => itemsEqual left right
  | .record left, .record right => fieldsEqual left right
  | .source left, .source right => left == right
  | _, _ => false

def itemsEqual : List Value → List Value → Bool
  | [], [] => true
  | left :: lefts, right :: rights => equals left right && itemsEqual lefts rights
  | _, _ => false

def fieldsEqual : List (String × Value) → List (String × Value) → Bool
  | [], [] => true
  | (leftKey, left) :: lefts, (rightKey, right) :: rights =>
    leftKey == rightKey && equals left right && fieldsEqual lefts rights
  | _, _ => false

end

def field? (value : Value) (key : String) : Option Value :=
  match value with
  | .record fields => Record.get? fields key
  | _ => none

/-- Follows a path of record keys, separated by dots. -/
def at? (value : Value) (path : String) : Option Value :=
  (path.splitOn ".").foldlM field? value

end Value

end EntitySchema
