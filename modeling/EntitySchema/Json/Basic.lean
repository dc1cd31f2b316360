import EntitySchema.Number.Decimal
/-!
JSON values. Numbers keep apart what their text keeps apart: an integer token that fits a word is
an integer, and any other number is a double, also one without a fraction.
-/

namespace EntitySchema

inductive Json where
  | null
  | bool (value : Bool)
  | integer (value : Int)
  | fraction (value : Binary64)
  | string (value : String)
  | array (items : List Json)
  | object (fields : List (String × Json))
  /-- A well-formed value that stands for nothing: a number beyond all doubles, a text with half of
  a surrogate pair, or a nesting that is too deep. It may only stand where it is ignored. -/
  | unusable
  deriving Repr, Inhabited

namespace Json

def field? (json : Json) (key : String) : Option Json :=
  match json with
  | .object fields => (fields.find? fun field => field.1 == key).map Prod.snd
  | _ => none

def ofNat (value : Nat) : Json := .integer value

mutual

def isUsable : Json → Bool
  | .unusable => false
  | .array items => areUsable items
  | .object fields => fieldsAreUsable fields
  | _ => true

def areUsable : List Json → Bool
  | [] => true
  | item :: rest => isUsable item && areUsable rest

def fieldsAreUsable : List (String × Json) → Bool
  | [] => true
  | (_, value) :: rest => isUsable value && fieldsAreUsable rest

end

end Json

end EntitySchema
