/-!
The built-in scalars. A scalar of a model is one of them if it has the name, and derived scalars
take their meaning from the built-in names along their derivation.
-/

namespace EntitySchema

inductive Intrinsic where
  | boolean
  | bytes
  | decimal
  | decimal128
  | duration
  | float
  | float32
  | float64
  | int8
  | int16
  | int32
  | int64
  | integer
  | numeric
  | offsetDateTime
  | plainDate
  | plainTime
  | safeInt
  | string
  | uint8
  | uint16
  | uint32
  | uint64
  | url
  | utcDateTime
  deriving DecidableEq, Repr

inductive DateTimeKind where
  | utc
  | offset
  | plainDate
  | plainTime
  deriving DecidableEq, Repr

def DateTimeKind.name : DateTimeKind → String
  | .utc => "utc"
  | .offset => "offset"
  | .plainDate => "plain_date"
  | .plainTime => "plain_time"

namespace Intrinsic

def all : List Intrinsic :=
  [.boolean, .bytes, .decimal, .decimal128, .duration, .float, .float32, .float64, .int8, .int16,
    .int32, .int64, .integer, .numeric, .offsetDateTime, .plainDate, .plainTime, .safeInt, .string,
    .uint8, .uint16, .uint32, .uint64, .url, .utcDateTime]

def name : Intrinsic → String
  | .boolean => "boolean"
  | .bytes => "bytes"
  | .decimal => "decimal"
  | .decimal128 => "decimal128"
  | .duration => "duration"
  | .float => "float"
  | .float32 => "float32"
  | .float64 => "float64"
  | .int8 => "int8"
  | .int16 => "int16"
  | .int32 => "int32"
  | .int64 => "int64"
  | .integer => "integer"
  | .numeric => "numeric"
  | .offsetDateTime => "offsetDateTime"
  | .plainDate => "plainDate"
  | .plainTime => "plainTime"
  | .safeInt => "safeint"
  | .string => "string"
  | .uint8 => "uint8"
  | .uint16 => "uint16"
  | .uint32 => "uint32"
  | .uint64 => "uint64"
  | .url => "url"
  | .utcDateTime => "utcDateTime"

/-- The name of the intrinsic itself in a document, which writes all names in camel case. -/
def documentName : Intrinsic → String
  | .safeInt => "safeInt"
  | other => other.name

def ofName? (scalarName : String) : Option Intrinsic :=
  all.find? fun intrinsic => intrinsic.name == scalarName

def isInteger : Intrinsic → Bool
  | .int8 | .int16 | .int32 | .int64 | .integer | .safeInt => true
  | .uint8 | .uint16 | .uint32 | .uint64 => true
  | _ => false

def isFloat : Intrinsic → Bool
  | .decimal | .decimal128 | .float | .float32 | .float64 => true
  | _ => false

def isNumeric (intrinsic : Intrinsic) : Bool :=
  intrinsic.isInteger || intrinsic.isFloat || intrinsic == .numeric

def isBoolean (intrinsic : Intrinsic) : Bool := intrinsic == .boolean

def isBinary (intrinsic : Intrinsic) : Bool := intrinsic == .bytes

def dateTimeKind? : Intrinsic → Option DateTimeKind
  | .utcDateTime => some .utc
  | .offsetDateTime => some .offset
  | .plainDate => some .plainDate
  | .plainTime => some .plainTime
  | _ => none

example : all.all (fun intrinsic => ofName? intrinsic.name == some intrinsic) = true := by decide

end Intrinsic

end EntitySchema
