import EntitySchema.Attribute.TypeExpression
/-!
The types of attributes, and how the types of a model become attribute types.
-/

namespace EntitySchema

/-- A choice is one of several values. A custom type is only known by its expression. -/
inductive AttributeType where
  | string
  | number
  | boolean
  | list (items : AttributeType)
  | map (properties : List (String × AttributeType))
  | set (values : List String)
  | choice (values : List Literal)
  | custom (expression : String)
  deriving Repr

namespace AttributeType

def kindName : AttributeType → String
  | .string => "string"
  | .number => "number"
  | .boolean => "boolean"
  | .list _ => "list"
  | .map _ => "map"
  | .set _ => "set"
  | .choice _ => "enum-array"
  | .custom _ => "custom"

def isNumber : AttributeType → Bool
  | .number => true
  | _ => false

mutual

def usesCustomType : AttributeType → Bool
  | .custom _ => true
  | .list items => usesCustomType items
  | .map properties => propertiesUseCustomType properties
  | _ => false

def propertiesUseCustomType : List (String × AttributeType) → Bool
  | [] => false
  | (_, type) :: rest => usesCustomType type || propertiesUseCustomType rest

end

def ofScalarKind : ScalarKind → AttributeType
  | .string => .string
  | .number => .number
  | .boolean => .boolean

/-- The attribute type of an array with the given elements: a set if they belong to an enum. -/
def ofElement (graph : Graph) (walkElement : TypeId → Except MappingError AttributeType)
    (element : TypeId) : Except MappingError AttributeType := do
  match ← fromGraph (graph.get element) with
  | .enum enum => return .set ((← enum.someValues).map Literal.plainText)
  | _ => return .list (← walkElement element)

/-- The attribute type of a type, given how deep the walk may still go and the records that are
open. A union becomes a choice if it consists of literals, and else a custom type. -/
def walk (graph : Graph) : Nat → List TypeId → TypeId → Except MappingError AttributeType
  | 0, _, id => .error (.endless id)
  | depth + 1, opened, id => do
    match ← fromGraph (graph.get id) with
    | .scalar _ => return ofScalarKind (← graph.scalarKind id)
    | .array element => ofElement graph (walk graph depth opened) element
    | .record record =>
      match record.arrayElement? with
      | some element => ofElement graph (walk graph depth opened) element
      | none =>
        let opened ← openRecord opened id record.name
        let properties ← fromGraph (graph.recordProperties record)
        return .map (← properties.mapM fun property => do
          return (property.name, ← walk graph depth opened property.type))
    | .enum enum => return .choice (← enum.someValues)
    | .union union =>
      match ← fromGraph (graph.unionLiterals union) with
      | some values => return .choice values
      | none => return .custom (String.ofList (← TypeExpression.walk graph depth opened id))
    | other => .error (.notMappable other.displayName other.kindName)

end AttributeType

def Graph.attributeType (graph : Graph) (id : TypeId) : Except MappingError AttributeType :=
  AttributeType.walk graph graph.walkDepth [] id

end EntitySchema
