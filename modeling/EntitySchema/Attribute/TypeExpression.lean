import EntitySchema.Model.Graph
import EntitySchema.Value.Quoted
/-!
Types written out as expressions.

Records and arrays are expanded in place. The walk keeps the records that are open, so that a
record that contains itself is an error and not an endless expansion. Array elements, variants and
items do not open anything; a depth limits the walk for graphs in which they form a cycle, and is
large enough for all others.
-/

namespace EntitySchema

inductive MappingError where
  | graph (error : GraphError)
  | selfReference (record : String)
  | nestedTooDeep (record : String)
  | binaryData (scalar : String)
  | emptyEnum (enum : String)
  | emptyUnion (union : String)
  | notExpressible (kind : String)
  | notMappable (name kind : String)
  | endless (id : TypeId)
  deriving DecidableEq, Repr

namespace MappingError

def subject : MappingError → String
  | .graph error => error.subject
  | .selfReference record => record
  | .nestedTooDeep record => record
  | .binaryData scalar => scalar
  | .emptyEnum enum => enum
  | .emptyUnion union => union
  | .notExpressible kind => kind
  | .notMappable name _ => name
  | .endless id => id.name

def reason : MappingError → String
  | .graph error => error.message
  | .selfReference _ => "record refers to itself"
  | .nestedTooDeep _ => "nesting exceeds the maximum depth of " ++ Nat.repr Graph.maxChainDepth
  | .binaryData _ => "raw binary data has no attribute type"
  | .emptyEnum _ => "enum has no members"
  | .emptyUnion _ => "union has no variants"
  | .notExpressible _ => "not representable in a type expression"
  | .notMappable _ kind => "no attribute mapping for " ++ kind ++ " types"
  | .endless _ => "type contains itself without end"

end MappingError

/-! ## Parts that attribute types and expressions share -/

def fromGraph {α : Type} (result : Except GraphError α) : Except MappingError α :=
  match result with
  | .ok value => .ok value
  | .error error => .error (.graph error)

inductive ScalarKind where
  | string
  | number
  | boolean
  deriving DecidableEq, Repr

def ScalarKind.name : ScalarKind → String
  | .string => "string"
  | .number => "number"
  | .boolean => "boolean"

/-- The kind of a scalar is that of the root of its derivation. Names that are not built in stand
for text. -/
def ScalarKind.ofRoot (root : ScalarType) : Except MappingError ScalarKind :=
  match Intrinsic.ofName? root.name with
  | none => .ok .string
  | some intrinsic =>
    if intrinsic.isBinary then .error (.binaryData root.name)
    else if intrinsic.isNumeric then .ok .number
    else if intrinsic.isBoolean then .ok .boolean
    else .ok .string

def Graph.scalarKind (graph : Graph) (id : TypeId) : Except MappingError ScalarKind := do
  ScalarKind.ofRoot (← fromGraph (graph.scalarRoot id))

def openRecord (opened : List TypeId) (id : TypeId) (name : String) :
    Except MappingError (List TypeId) :=
  if opened.contains id then .error (.selfReference name)
  else if opened.length = Graph.maxChainDepth then .error (.nestedTooDeep name)
  else .ok (id :: opened)

def EnumType.someValues (enum : EnumType) : Except MappingError (List Literal) :=
  if enum.members.isEmpty then .error (.emptyEnum enum.name) else .ok enum.values

/-- Between two records, or below the last, a walk passes every node at most once, unless it is
caught in a cycle. -/
def Graph.walkDepth (graph : Graph) : Nat := (Graph.maxChainDepth + 1) * (graph.size + 1)

/-! ## Expressions -/

namespace TypeExpression

def hasBar : List Char → Bool
  | ' ' :: '|' :: ' ' :: _ => true
  | _ :: rest => hasBar rest
  | [] => false

def ofLiteral : Literal → List Char
  | .text value => quotedChars value.toList
  | .number value => value.chars

def ofVariants (variants : List (List Char)) : List Char :=
  List.intercalate " | ".toList variants

/-- An element of several variants stands in parentheses. -/
def ofArray (element : List Char) : List Char :=
  if hasBar element then '(' :: element ++ ")[]".toList else element ++ "[]".toList

example : ofArray "string | null".toList = "(string | null)[]".toList := by decide

def ofTuple (items : List (List Char)) : List Char :=
  '[' :: List.intercalate ", ".toList items ++ [']']

def ofMember (property : Property) (type : List Char) : List Char :=
  keyChars property.name ++ (if property.optional then ['?'] else []) ++ ':' :: ' ' :: type

def ofMembers (members : List (List Char)) : List Char :=
  if members.isEmpty then "\x7b\x7d".toList
  else "\x7b ".toList ++ List.intercalate "; ".toList members ++ "; \x7d".toList

def walk (graph : Graph) : Nat → List TypeId → TypeId → Except MappingError (List Char)
  | 0, _, id => .error (.endless id)
  | depth + 1, opened, id => do
    match ← fromGraph (graph.get id) with
    | .scalar _ => return (← graph.scalarKind id).name.toList
    | .array element => return ofArray (← walk graph depth opened element)
    | .record record =>
      match record.arrayElement? with
      | some element => return ofArray (← walk graph depth opened element)
      | none =>
        let opened ← openRecord opened id record.name
        let properties ← fromGraph (graph.recordProperties record)
        let members ← properties.mapM fun property => do
          return ofMember property (← walk graph depth opened property.type)
        return ofMembers members
    | .enum enum => return ofVariants ((← enum.someValues).map ofLiteral)
    | .union union =>
      if union.variants.isEmpty then .error (.emptyUnion union.displayName)
      else return ofVariants (← union.variants.mapM (walk graph depth opened))
    | .stringLiteral value => return quotedChars value.toList
    | .numericLiteral value => return value.chars
    | .booleanLiteral value => return (boolText value).toList
    | .tuple items => return ofTuple (← items.mapM (walk graph depth opened))
    | .null => return "null".toList
    | .unknown => return "unknown".toList
    | .void => .error (.notExpressible TypeNode.void.kindName)
    | .never => .error (.notExpressible TypeNode.never.kindName)

end TypeExpression

def Graph.typeExpression (graph : Graph) (id : TypeId) : Except MappingError String :=
  (TypeExpression.walk graph graph.walkDepth [] id).map String.ofList

end EntitySchema
