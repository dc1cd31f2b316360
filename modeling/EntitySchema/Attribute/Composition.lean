import EntitySchema.Attribute.Basic
import EntitySchema.Model.Metadata
/-!
How a property of an annotated record becomes an attribute.
-/

namespace EntitySchema

namespace Attribute

def ofTimestamp (path : String) (type : AttributeType) (marker : TimestampMarker) :
    Except CompileError Attribute :=
  if type.isNumber then
    let attr : Attribute :=
      { type, required := true, default := some .now, field := marker.field }
    match marker.kind with
    | .created => .ok { attr with readOnly := true }
    | .updated => .ok { attr with watchAll := true, set := some .now }
  else .error (.located path (.invalidTimestampType type.kindName))

/-- The value of a member of an enum, or the name itself if there is no such member. -/
def memberValue (graph : Graph) (enumType : TypeId) (name : String) : Value :=
  match graph.get? enumType with
  | some (.enum enum) =>
    match enum.member? name with
    | some member => .ofLiteral member.resolvedValue
    | none => .text name
  | _ => .text name

/-- The default as an attribute can carry it; defaults with a structure are dropped. -/
def defaultValue? (graph : Graph) : DefaultValue → Option Value
  | .string value => some (.text value)
  | .number value => some (.number value)
  | .boolean value => some (.bool value)
  | .enumMember enumType member => some (memberValue graph enumType member)
  | .null | .array _ | .object _ => none

def ofPlain (graph : Graph) (type : AttributeType) (property : Property) :
    Except CompileError Attribute :=
  match Constraints.resolve graph property with
  | .error error => .error (.ofGraphError error)
  | .ok constraints =>
    match constraints.validator property.name with
    | .error error => .error error
    | .ok validator =>
      .ok {
        type
        required := !property.optional
        default := (property.default.bind (defaultValue? graph)).map .literal
        validator }

/-- Adds what the metadata says. The field of a timestamp marker goes before. -/
def annotate (attr : Attribute) : Option PropertyMetadata → Attribute
  | none => attr
  | some metadata =>
    { attr with label := metadata.label, field := attr.field.or metadata.field }

def composeAt (graph : Graph) (entity : EntityMetadata) (property : Property) (path : String) :
    Except CompileError Attribute :=
  let metadata := entity.property? property.name
  match graph.attributeType property.type with
  | .error error => .error (.ofMappingError error)
  | .ok type =>
    let attr :=
      match metadata.bind PropertyMetadata.timestamp with
      | some marker => ofTimestamp path type marker
      | none => ofPlain graph type property
    attr.map fun attr => attr.annotate metadata

def compose (graph : Graph) (entity : EntityMetadata) (property : Property) :
    Except CompileError Attribute :=
  let path := entity.entity ++ "." ++ property.name
  (composeAt graph entity property path).mapError (CompileError.inContext path)

end Attribute

end EntitySchema
