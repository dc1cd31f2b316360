import EntitySchema.Json.Decoding
import EntitySchema.Model.Metadata
/-!
The document form of a model.

Every part is written with its fields in a fixed order, leaving out what has no value, and what
is written reads back as the same part. Types and defaults carry their kind in the field `kind`.
-/

namespace EntitySchema

/-! ## Numbers and literals -/

/-- An integer token is a whole number if it fits, and any other number a double. -/
def Number.ofJson? : Json → Option Number
  | .integer value =>
    match int64OfInt? value with
    | some exact => some (.int exact)
    | none => some (.float (Binary64.ofInt value))
  | .fraction value => some (.float value)
  | _ => none

def Number.toJson : Number → Json
  | .int value => .integer value.toInt
  | .float value => if value.isFinite then .fraction value else .null

def Literal.ofJson? : Json → Option Literal
  | .string value => some (.text value)
  | json => (Number.ofJson? json).map .number

def Literal.toJson : Literal → Json
  | .text value => .string value
  | .number value => value.toJson

def TypeId.ofJson? (json : Json) : Option TypeId := json.asWord?.map TypeId.mk

def TypeId.toJson (id : TypeId) : Json := .integer id.index.toNat

def wordToJson (value : UInt64) : Json := .integer value.toNat

/-! ## Properties -/

namespace Facets

def ofJson? (json : Json) : Option Facets := do
  let json ← json.asStructure? ["minLength", "maxLength", "minValue", "maxValue", "pattern"]
  return {
    minLength := ← json.optional Json.asWord? "minLength"
    maxLength := ← json.optional Json.asWord? "maxLength"
    minValue := ← json.optional Number.ofJson? "minValue"
    maxValue := ← json.optional Number.ofJson? "maxValue"
    pattern := ← json.optional Json.asString? "pattern" }

def toJson (facets : Facets) : Json :=
  .object (Json.optionalField "minLength" wordToJson facets.minLength ++
    Json.optionalField "maxLength" wordToJson facets.maxLength ++
    Json.optionalField "minValue" Number.toJson facets.minValue ++
    Json.optionalField "maxValue" Number.toJson facets.maxValue ++
    Json.optionalField "pattern" Json.string facets.pattern)

end Facets

namespace DefaultValue

def kinds : List String :=
  ["string", "number", "boolean", "enumMember", "null", "array", "object"]

def entryOfJson? (read : Json → Option DefaultValue) : Json → Option (String × DefaultValue)
  | .array [.string key, value] => (read value).map fun value => (key, value)
  | _ => none

/-- Reads a default, which may stand in another structure with a kind. The fuel bounds how deep
defaults are nested. -/
def ofJsonWithin? : Nat → Bool → Json → Option DefaultValue
  | 0, _, _ => none
  | fuel + 1, nested, json => do
    let (kind, json) ← json.asTagged? kinds nested
    if kind = "string" then
      return .string (← (← json.asStructure? ["value"]).required Json.asString? "value")
    else if kind = "number" then
      return .number (← (← json.asStructure? ["value"]).required Number.ofJson? "value")
    else if kind = "boolean" then
      return .boolean (← (← json.asStructure? ["value"]).required Json.asBool? "value")
    else if kind = "enumMember" then
      let json ← json.asStructure? ["enumType", "member"]
      let enumType ← json.required TypeId.ofJson? "enumType"
      let member ← json.required Json.asString? "member"
      return .enumMember enumType member
    else if kind = "null" then
      let _ ← json.asStructure? []
      return .null
    else if kind = "array" then
      let json ← json.asStructure? ["items"]
      return .array (← json.required (Json.asList? (ofJsonWithin? fuel true)) "items")
    else if kind = "object" then
      let json ← json.asStructure? ["fields"]
      let readEntry := entryOfJson? (ofJsonWithin? fuel true)
      return .object (← json.required (Json.asList? readEntry) "fields")
    else none

def ofJson? (nested : Bool) (json : Json) : Option DefaultValue :=
  ofJsonWithin? (json.depth + 1) nested json

mutual

def toJson : DefaultValue → Json
  | .string value => .object [("kind", .string "string"), ("value", .string value)]
  | .number value => .object [("kind", .string "number"), ("value", value.toJson)]
  | .boolean value => .object [("kind", .string "boolean"), ("value", .bool value)]
  | .enumMember enumType member =>
    .object [("kind", .string "enumMember"), ("enumType", enumType.toJson),
      ("member", .string member)]
  | .null => .object [("kind", .string "null")]
  | .array items => .object [("kind", .string "array"), ("items", .array (itemsToJson items))]
  | .object fields =>
    .object [("kind", .string "object"), ("fields", .array (fieldsToJson fields))]

def itemsToJson : List DefaultValue → List Json
  | [] => []
  | item :: rest => toJson item :: itemsToJson rest

def fieldsToJson : List (String × DefaultValue) → List Json
  | [] => []
  | (key, value) :: rest => .array [.string key, toJson value] :: fieldsToJson rest

end

end DefaultValue

namespace Property

def ofJsonIn? (nested : Bool) (json : Json) : Option Property := do
  let json ← json.asStructure? ["name", "type", "optional", "default", "facets"]
  let name ← json.required Json.asString? "name"
  let type ← json.required TypeId.ofJson? "type"
  let optional ← json.defaulted Json.asBool? false "optional"
  let default ← json.optional (DefaultValue.ofJson? nested) "default"
  let facets ← json.defaulted Facets.ofJson? {} "facets"
  return { name, type, optional, default, facets }

def ofJson? (json : Json) : Option Property := ofJsonIn? false json

def toJson (property : Property) : Json :=
  .object ([("name", .string property.name), ("type", property.type.toJson),
      ("optional", .bool property.optional)] ++
    Json.optionalField "default" DefaultValue.toJson property.default ++
    Json.fieldUnless property.facets.isEmpty "facets" property.facets.toJson)

end Property

/-! ## Types -/

namespace ScalarType

def ofJson? (json : Json) : Option ScalarType := do
  let json ← json.asStructure? ["name", "base", "facets"]
  let name ← json.required Json.asString? "name"
  let base ← json.optional TypeId.ofJson? "base"
  let facets ← json.defaulted Facets.ofJson? {} "facets"
  return { name, base, facets }

def fieldsToJson (scalar : ScalarType) : List (String × Json) :=
  [("name", .string scalar.name)] ++
    Json.optionalField "base" TypeId.toJson scalar.base ++
    Json.fieldUnless scalar.facets.isEmpty "facets" scalar.facets.toJson

end ScalarType

namespace RecordType

def ofJson? (json : Json) : Option RecordType := do
  let json ← json.asStructure? ["name", "properties", "base", "indexer"]
  let name ← json.required Json.asString? "name"
  let properties ← json.defaulted (Json.asList? (Property.ofJsonIn? true)) [] "properties"
  let base ← json.optional TypeId.ofJson? "base"
  let indexer ← json.optional TypeId.ofJson? "indexer"
  return { name, properties, base, indexer }

def fieldsToJson (record : RecordType) : List (String × Json) :=
  [("name", .string record.name),
    ("properties", .array (record.properties.map Property.toJson))] ++
    Json.optionalField "base" TypeId.toJson record.base ++
    Json.optionalField "indexer" TypeId.toJson record.indexer

end RecordType

namespace EnumMember

def ofJson? (json : Json) : Option EnumMember := do
  let json ← json.asStructure? ["name", "value"]
  let name ← json.required Json.asString? "name"
  let value ← json.optional Literal.ofJson? "value"
  return { name, value }

def toJson (member : EnumMember) : Json :=
  .object ([("name", .string member.name)] ++
    Json.optionalField "value" Literal.toJson member.value)

end EnumMember

namespace EnumType

def ofJson? (json : Json) : Option EnumType := do
  let json ← json.asStructure? ["name", "members"]
  let name ← json.required Json.asString? "name"
  let members ← json.required (Json.asList? EnumMember.ofJson?) "members"
  return { name, members }

def fieldsToJson (enum : EnumType) : List (String × Json) :=
  [("name", .string enum.name), ("members", .array (enum.members.map EnumMember.toJson))]

end EnumType

namespace UnionType

def ofJson? (json : Json) : Option UnionType := do
  let json ← json.asStructure? ["name", "variants"]
  let name ← json.optional Json.asString? "name"
  let variants ← json.required (Json.asList? TypeId.ofJson?) "variants"
  return { name, variants }

def fieldsToJson (union : UnionType) : List (String × Json) :=
  Json.optionalField "name" Json.string union.name ++
    [("variants", .array (union.variants.map TypeId.toJson))]

end UnionType

namespace TypeNode

def kinds : List String :=
  ["scalar", "record", "array", "enum", "union", "stringLiteral", "numericLiteral",
    "booleanLiteral", "tuple", "unknown", "void", "never", "null"]

/-- Reads a type. Nothing in it may be unusable, not even what is ignored otherwise. -/
def ofJson? (json : Json) : Option TypeNode := do
  if !json.isUsable then none
  let (kind, json) ← json.asTagged? kinds false
  if kind = "scalar" then return .scalar (← ScalarType.ofJson? json)
  else if kind = "record" then return .record (← RecordType.ofJson? json)
  else if kind = "array" then
    return .array (← (← json.asStructure? ["element"]).required TypeId.ofJson? "element")
  else if kind = "enum" then return .enum (← EnumType.ofJson? json)
  else if kind = "union" then return .union (← UnionType.ofJson? json)
  else if kind = "stringLiteral" then
    return .stringLiteral (← (← json.asStructure? ["value"]).required Json.asString? "value")
  else if kind = "numericLiteral" then
    return .numericLiteral (← (← json.asStructure? ["value"]).required Number.ofJson? "value")
  else if kind = "booleanLiteral" then
    return .booleanLiteral (← (← json.asStructure? ["value"]).required Json.asBool? "value")
  else if kind = "tuple" then
    let json ← json.asStructure? ["items"]
    return .tuple (← json.required (Json.asList? TypeId.ofJson?) "items")
  else
    let _ ← json.asStructure? []
    if kind = "unknown" then return .unknown
    else if kind = "void" then return .void
    else if kind = "never" then return .never
    else if kind = "null" then return .null
    else none

def tagged (kind : String) (fields : List (String × Json)) : Json :=
  .object (("kind", .string kind) :: fields)

def toJson : TypeNode → Json
  | .scalar node => tagged "scalar" node.fieldsToJson
  | .record node => tagged "record" node.fieldsToJson
  | .array element => tagged "array" [("element", element.toJson)]
  | .enum node => tagged "enum" node.fieldsToJson
  | .union node => tagged "union" node.fieldsToJson
  | .stringLiteral value => tagged "stringLiteral" [("value", .string value)]
  | .numericLiteral value => tagged "numericLiteral" [("value", value.toJson)]
  | .booleanLiteral value => tagged "booleanLiteral" [("value", .bool value)]
  | .tuple items => tagged "tuple" [("items", .array (items.map TypeId.toJson))]
  | .unknown => tagged "unknown" []
  | .void => tagged "void" []
  | .never => tagged "never" []
  | .null => tagged "null" []

end TypeNode

namespace Graph

def ofJson? (json : Json) : Option Graph := do
  let json ← json.asStructure? ["types"]
  let types ← json.required (Json.asList? TypeNode.ofJson?) "types"
  return { types := types.toArray }

def toJson (graph : Graph) : Json :=
  .object [("types", .array (graph.types.toList.map TypeNode.toJson))]

end Graph

/-! ## Metadata -/

def TimestampKind.ofJson? (json : Json) : Option TimestampKind :=
  json.asName?.bind fun name =>
    if name = "created" then some .created
    else if name = "updated" then some .updated
    else none

def IndexKind.ofJson? (json : Json) : Option IndexKind :=
  json.asName?.bind fun name =>
    if name = "isolated" then some .isolated
    else if name = "clustered" then some .clustered
    else none

def Casing.ofJson? (json : Json) : Option Casing :=
  json.asName?.bind fun name =>
    if name = "default" then some .default
    else if name = "upper" then some .upper
    else if name = "lower" then some .lower
    else if name = "none" then some Casing.none
    else Option.none

namespace TimestampMarker

def ofJson? (json : Json) : Option TimestampMarker := do
  let json ← json.asStructure? ["kind", "field"]
  let kind ← json.required TimestampKind.ofJson? "kind"
  let field ← json.optional Json.asString? "field"
  return { kind, field }

def toJson (marker : TimestampMarker) : Json :=
  .object ([("kind", .string marker.kind.name)] ++
    Json.optionalField "field" Json.string marker.field)

end TimestampMarker

namespace PropertyMetadata

def ofJson? (json : Json) : Option PropertyMetadata := do
  let json ← json.asStructure? ["label", "field", "timestamp"]
  let label ← json.optional Json.asString? "label"
  let field ← json.optional Json.asString? "field"
  let timestamp ← json.optional TimestampMarker.ofJson? "timestamp"
  return { label, field, timestamp }

def toJson (metadata : PropertyMetadata) : Json :=
  .object (Json.optionalField "label" Json.string metadata.label ++
    Json.optionalField "field" Json.string metadata.field ++
    Json.optionalField "timestamp" TimestampMarker.toJson metadata.timestamp)

end PropertyMetadata

namespace KeyMetadata

def ofJson? (json : Json) : Option KeyMetadata := do
  let json ← json.asStructure? ["field", "composite", "casing"]
  let field ← json.optional Json.asString? "field"
  let composite ← json.defaulted (Json.asList? Json.asString?) [] "composite"
  let casing ← json.optional Casing.ofJson? "casing"
  return { field, composite, casing }

def toJson (key : KeyMetadata) : Json :=
  .object (Json.optionalField "field" Json.string key.field ++
    [("composite", .array (key.composite.map Json.string))] ++
    Json.optionalField "casing" (fun casing => Json.string casing.name) key.casing)

end KeyMetadata

namespace IndexMetadata

def ofJson? (json : Json) : Option IndexMetadata := do
  let json ← json.asStructure? ["name", "pk", "sk", "index", "collection", "type", "scope"]
  let name ← json.required Json.asString? "name"
  let pk ← json.required KeyMetadata.ofJson? "pk"
  let sk ← json.optional KeyMetadata.ofJson? "sk"
  let index ← json.optional Json.asString? "index"
  let collection ← json.optional Json.asString? "collection"
  let kind ← json.optional IndexKind.ofJson? "type"
  let scope ← json.optional Json.asString? "scope"
  return { name, pk, sk, index, collection, kind, scope }

def toJson (index : IndexMetadata) : Json :=
  .object ([("name", .string index.name), ("pk", index.pk.toJson)] ++
    Json.optionalField "sk" KeyMetadata.toJson index.sk ++
    Json.optionalField "index" Json.string index.index ++
    Json.optionalField "collection" Json.string index.collection ++
    Json.optionalField "type" (fun kind => Json.string kind.name) index.kind ++
    Json.optionalField "scope" Json.string index.scope)

end IndexMetadata

namespace EntityMetadata

def propertiesOfJson? (json : Json) : Option (SortedMap PropertyMetadata) := do
  let fields ← json.asObject?
  let pairs ← fields.mapM fun (key, value) =>
    (PropertyMetadata.ofJson? value).map fun metadata => (key, metadata)
  return .ofPairs pairs

def propertiesToJson (properties : SortedMap PropertyMetadata) : Json :=
  .object (properties.entries.map fun (key, metadata) => (key, metadata.toJson))

def ofJson? (json : Json) : Option EntityMetadata := do
  let json ← json.asStructure? ["node", "entity", "service", "version", "indexes", "properties"]
  let node ← json.required TypeId.ofJson? "node"
  let entity ← json.required Json.asString? "entity"
  let service ← json.optional Json.asString? "service"
  let version ← json.optional Json.asString? "version"
  let indexes ← json.defaulted (Json.asList? IndexMetadata.ofJson?) [] "indexes"
  let properties ← json.defaulted propertiesOfJson? .empty "properties"
  return { node, entity, service, version, indexes, properties }

def toJson (entity : EntityMetadata) : Json :=
  .object ([("node", entity.node.toJson), ("entity", .string entity.entity)] ++
    Json.optionalField "service" Json.string entity.service ++
    Json.optionalField "version" Json.string entity.version ++
    Json.fieldUnless entity.indexes.isEmpty "indexes"
      (.array (entity.indexes.map IndexMetadata.toJson)) ++
    Json.fieldUnless entity.properties.isEmpty "properties"
      (propertiesToJson entity.properties))

end EntityMetadata

namespace Metadata

def ofJson? (json : Json) : Option Metadata := do
  let json ← json.asStructure? ["entities"]
  let entities ← json.defaulted (Json.asList? EntityMetadata.ofJson?) [] "entities"
  return { entities }

def toJson (metadata : Metadata) : Json :=
  .object [("entities", .array (metadata.entities.map EntityMetadata.toJson))]

end Metadata

namespace Model

def ofJson? (json : Json) : Option Model := do
  let json ← json.asStructure? ["graph", "metadata"]
  let graph ← json.required Graph.ofJson? "graph"
  let metadata ← json.defaulted Metadata.ofJson? {} "metadata"
  return { graph, metadata }

def toJson (model : Model) : Json :=
  .object [("graph", model.graph.toJson), ("metadata", model.metadata.toJson)]

end Model

end EntitySchema
