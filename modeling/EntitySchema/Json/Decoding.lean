import EntitySchema.Json.Basic
/-!
Building blocks for reading objects into structures and writing structures as objects.

A field is required, optional or defaulted. An optional field may be missing or `null`; a
defaulted one may only be missing. Fields that nobody asks for are ignored. An array may stand for
an object: its items are then the fields, in their order.
-/

namespace EntitySchema

namespace Json

/-! ## Reading -/

def asString? : Json → Option String
  | .string value => some value
  | _ => none

def asBool? : Json → Option Bool
  | .bool value => some value
  | _ => none

def asWord? : Json → Option UInt64
  | .integer value =>
    if 0 ≤ value ∧ value < UInt64.size then some (UInt64.ofNat value.toNat) else none
  | _ => none

def asArray? : Json → Option (List Json)
  | .array items => some items
  | _ => none

def asObject? : Json → Option (List (String × Json))
  | .object fields => some fields
  | _ => none

def asList? {α : Type} (read : Json → Option α) (json : Json) : Option (List α) :=
  json.asArray?.bind fun items => items.mapM read

/-- A name out of a closed set, as a string or as an object that maps the name to `null`. -/
def asName? : Json → Option String
  | .string name => some name
  | .object [(name, .null)] => some name
  | _ => none

/-- An object as it is, or an array as the object of the given fields. -/
def asStructure? (names : List String) : Json → Option Json
  | .object fields => some (.object fields)
  | .array items => if items.length ≤ names.length then some (.object (names.zip items)) else none
  | _ => none

/-- A kind out of a list of kinds. Inside of a structure that says its own kind, a kind may also be
given by its place in the list. -/
def asKind? (kinds : List String) (nested : Bool) : Json → Option String
  | .string kind => if kinds.contains kind then some kind else none
  | .integer place => if nested && 0 ≤ place then kinds[place.toNat]? else none
  | _ => none

/-- The kind of a structure that says its kind, and what holds its fields. In an array the kind is
the first item. -/
def asTagged? (kinds : List String) (nested : Bool) : Json → Option (String × Json)
  | .object fields =>
    (((Json.object fields).field? "kind").bind (asKind? kinds nested)).map fun kind =>
      (kind, .object fields)
  | .array (first :: rest) => (asKind? kinds nested first).map fun kind => (kind, .array rest)
  | _ => none

def required {α : Type} (read : Json → Option α) (key : String) (json : Json) : Option α :=
  (json.field? key).bind read

def optional {α : Type} (read : Json → Option α) (key : String) (json : Json) :
    Option (Option α) :=
  match json.field? key with
  | none => some none
  | some .null => some none
  | some value => (read value).map some

def defaulted {α : Type} (read : Json → Option α) (fallback : α) (key : String) (json : Json) :
    Option α :=
  match json.field? key with
  | none => some fallback
  | some value => read value

/-! ## Writing -/

def optionalField {α : Type} (key : String) (write : α → Json) : Option α → List (String × Json)
  | none => []
  | some value => [(key, write value)]

def fieldUnless (omitted : Bool) (key : String) (value : Json) : List (String × Json) :=
  if omitted then [] else [(key, value)]

/-! ## Nesting -/

mutual

def depth : Json → Nat
  | .array items => itemsDepth items + 1
  | .object fields => fieldsDepth fields + 1
  | _ => 0

def itemsDepth : List Json → Nat
  | [] => 0
  | item :: rest => max (depth item) (itemsDepth rest)

def fieldsDepth : List (String × Json) → Nat
  | [] => 0
  | (_, value) :: rest => max (depth value) (fieldsDepth rest)

end

end Json

end EntitySchema
