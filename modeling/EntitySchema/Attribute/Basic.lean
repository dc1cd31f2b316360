import EntitySchema.Attribute.Type
import EntitySchema.Config.Basic
import EntitySchema.Validator
/-!
Attributes of an entity, and the object literals that declare them.
-/

namespace EntitySchema

inductive AttributeDefault where
  | literal (value : Value)
  | now

structure Attribute where
  type : AttributeType
  required : Bool := false
  default : Option AttributeDefault := none
  readOnly : Bool := false
  watchAll : Bool := false
  set : Option AttributeDefault := none
  label : Option String := none
  field : Option String := none
  validator : Option Validator := none

/-! ## Declarations -/

def optionalMember {α : Type} (key : String) (write : α → Value) : Option α → Record Value
  | none => []
  | some value => [(key, write value)]

def memberIf (condition : Bool) (key : String) (value : Value) : Record Value :=
  if condition then [(key, value)] else []

def customTypeSource (config : Config) (expression : String) : String :=
  config.output.customType ++ "<" ++ expression ++ ">(\"any\")"

namespace AttributeType

mutual

def members (config : Config) : AttributeType → Record Value
  | .string => [("type", .text "string")]
  | .number => [("type", .text "number")]
  | .boolean => [("type", .text "boolean")]
  | .list items => [("type", .text "list"), ("items", .record (members config items))]
  | .map properties =>
    [("type", .text "map"),
      ("properties", .record (Record.ofPairs (propertyMembers config properties)))]
  | .set values => [("type", .text "set"), ("items", .list (values.map .text))]
  | .choice values => [("type", .list (values.map .ofLiteral))]
  | .custom expression => [("type", .source (customTypeSource config expression))]

def propertyMembers (config : Config) : List (String × AttributeType) → List (String × Value)
  | [] => []
  | (name, type) :: rest =>
    (name, .record (members config type)) :: propertyMembers config rest

end

end AttributeType

def AttributeDefault.toValue (config : Config) : AttributeDefault → Value
  | .literal value => value
  | .now => .source config.timestamps.nowSource

def Attribute.toValue (config : Config) (attr : Attribute) : Value :=
  .record (attr.type.members config ++
    memberIf attr.required "required" (.bool true) ++
    optionalMember "default" (AttributeDefault.toValue config) attr.default ++
    memberIf attr.readOnly "readOnly" (.bool true) ++
    memberIf attr.watchAll "watch" (.text "*") ++
    optionalMember "set" (AttributeDefault.toValue config) attr.set ++
    optionalMember "label" .text attr.label ++
    optionalMember "field" .text attr.field ++
    optionalMember "validate" (fun validator => .source validator.source) attr.validator)

end EntitySchema
