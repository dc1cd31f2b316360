import EntitySchema.Number.Basic
/-!
The nodes of a type graph. Nodes refer to each other by `TypeId`, the position of a node in its
graph.
-/

namespace EntitySchema

structure TypeId where
  index : UInt64
  deriving DecidableEq, Repr

def TypeId.name (id : TypeId) : String := "#" ++ Nat.repr id.index.toNat

structure Facets where
  minLength : Option UInt64 := none
  maxLength : Option UInt64 := none
  minValue : Option Number := none
  maxValue : Option Number := none
  pattern : Option String := none
  deriving DecidableEq, Repr

def Facets.isEmpty (facets : Facets) : Bool :=
  facets.minLength.isNone && facets.maxLength.isNone && facets.minValue.isNone &&
    facets.maxValue.isNone && facets.pattern.isNone

inductive DefaultValue where
  | string (value : String)
  | number (value : Number)
  | boolean (value : Bool)
  | enumMember (enumType : TypeId) (member : String)
  | null
  | array (items : List DefaultValue)
  | object (fields : List (String × DefaultValue))
  deriving Repr

def DefaultValue.isPlain : DefaultValue → Bool
  | .string _ | .number _ | .boolean _ | .enumMember .. => true
  | _ => false

structure Property where
  name : String
  type : TypeId
  optional : Bool := false
  default : Option DefaultValue := none
  facets : Facets := {}
  deriving Repr

/-- A scalar without a base is the root of a derivation. -/
structure ScalarType where
  name : String
  base : Option TypeId := none
  facets : Facets := {}
  deriving DecidableEq, Repr

structure RecordType where
  name : String
  properties : List Property := []
  base : Option TypeId := none
  indexer : Option TypeId := none
  deriving Repr

namespace RecordType

def arrayName : String := "Array"

/-- The element type of a record that stands for an array: one with that name, an indexer and no
properties of its own. -/
def arrayElement? (record : RecordType) : Option TypeId :=
  if record.name == arrayName && record.properties.isEmpty then record.indexer else none

def arrayOf (element : TypeId) : RecordType := { name := arrayName, indexer := some element }

def property? (record : RecordType) (name : String) : Option Property :=
  record.properties.find? fun property => property.name == name

end RecordType

structure EnumMember where
  name : String
  value : Option Literal := none
  deriving DecidableEq, Repr

def EnumMember.resolvedValue (member : EnumMember) : Literal :=
  member.value.getD (.text member.name)

structure EnumType where
  name : String
  members : List EnumMember
  deriving DecidableEq, Repr

namespace EnumType

def values (enum : EnumType) : List Literal := enum.members.map EnumMember.resolvedValue

def member? (enum : EnumType) (name : String) : Option EnumMember :=
  enum.members.find? fun member => member.name == name

end EnumType

structure UnionType where
  name : Option String := none
  variants : List TypeId
  deriving DecidableEq, Repr

def UnionType.displayName (union : UnionType) : String := union.name.getD "union"

inductive TypeNode where
  | scalar (scalar : ScalarType)
  | record (record : RecordType)
  | array (element : TypeId)
  | enum (enum : EnumType)
  | union (union : UnionType)
  | stringLiteral (value : String)
  | numericLiteral (value : Number)
  | booleanLiteral (value : Bool)
  | tuple (items : List TypeId)
  | unknown
  | void
  | never
  | null
  deriving Repr

def boolText (value : Bool) : String := if value then "true" else "false"

namespace TypeNode

def kindName : TypeNode → String
  | .scalar _ => "scalar"
  | .record _ => "record"
  | .array _ => "array"
  | .enum _ => "enum"
  | .union _ => "union"
  | .stringLiteral _ => "string literal"
  | .numericLiteral _ => "numeric literal"
  | .booleanLiteral _ => "boolean literal"
  | .tuple _ => "tuple"
  | .unknown => "unknown"
  | .void => "void"
  | .never => "never"
  | .null => "null"

def displayName : TypeNode → String
  | .scalar node => node.name
  | .record node => node.name
  | .enum node => node.name
  | .union node => node.displayName
  | .stringLiteral value => "\"" ++ value ++ "\""
  | .numericLiteral value => value.text
  | .booleanLiteral value => boolText value
  | other => other.kindName

def name? : TypeNode → Option String
  | .scalar node => some node.name
  | .record node => some node.name
  | .enum node => some node.name
  | .union node => node.name
  | _ => none

def literal? : TypeNode → Option Literal
  | .stringLiteral value => some (.text value)
  | .numericLiteral value => some (.number value)
  | _ => none

def isRootScalar (scalarName : String) : TypeNode → Bool
  | .scalar node => node.base.isNone && node.name == scalarName
  | _ => false

end TypeNode

end EntitySchema
