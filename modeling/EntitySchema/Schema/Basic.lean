import EntitySchema.Attribute.Composition
/-!
Schemas of entities, and the object literals that declare them.
-/

namespace EntitySchema

structure Key where
  field : String
  composite : List String
  casing : Option Casing := none
  deriving DecidableEq, Repr

structure Index where
  pk : Key
  sk : Option Key := none
  index : Option String := none
  collection : Option String := none
  kind : Option IndexKind := none
  scope : Option String := none
  deriving DecidableEq, Repr

structure Identity where
  entity : String
  service : String
  version : String
  deriving DecidableEq, Repr

structure Schema where
  attributes : List (String × Attribute)
  indexes : List (String × Index)
  identity : Identity

namespace Schema

def name (schema : Schema) : String := schema.identity.entity

def attribute? (schema : Schema) (name : String) : Option Attribute :=
  (schema.attributes.find? fun entry => entry.1 == name).map Prod.snd

def index? (schema : Schema) (name : String) : Option Index :=
  (schema.indexes.find? fun entry => entry.1 == name).map Prod.snd

def usesCustomType (schema : Schema) : Bool :=
  schema.attributes.any fun entry => entry.2.type.usesCustomType

end Schema

/-! ## Declarations -/

def Key.toValue (key : Key) : Value :=
  .record ([("field", .text key.field), ("composite", .list (key.composite.map .text))] ++
    optionalMember "casing" (fun casing => .text casing.name) key.casing)

def Index.toValue (index : Index) : Value :=
  .record ([("pk", index.pk.toValue)] ++
    optionalMember "sk" Key.toValue index.sk ++
    optionalMember "index" .text index.index ++
    optionalMember "collection" .text index.collection ++
    optionalMember "type" (fun kind => .text kind.name) index.kind ++
    optionalMember "scope" .text index.scope)

def Identity.toValue (identity : Identity) : Value :=
  .record [("entity", .text identity.entity), ("service", .text identity.service),
    ("version", .text identity.version)]

def Schema.toValue (config : Config) (schema : Schema) : Value :=
  let attributes := schema.attributes.map fun entry => (entry.1, entry.2.toValue config)
  let indexes := schema.indexes.map fun entry => (entry.1, entry.2.toValue)
  .record [("attributes", .record (Record.ofPairs attributes)),
    ("indexes", .record (Record.ofPairs indexes)),
    ("model", schema.identity.toValue)]

end EntitySchema
