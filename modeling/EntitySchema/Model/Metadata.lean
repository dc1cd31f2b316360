import EntitySchema.Model.Graph
import EntitySchema.SortedMap
/-!
Models: a type graph and what is said about its types beyond their shape. That is which records are
entities, how their properties are stored, and through which indexes they are looked up.
-/

namespace EntitySchema

inductive TimestampKind where
  | created
  | updated
  deriving DecidableEq, Repr

def TimestampKind.name : TimestampKind → String
  | .created => "created"
  | .updated => "updated"

structure TimestampMarker where
  kind : TimestampKind
  field : Option String := none
  deriving DecidableEq, Repr

structure PropertyMetadata where
  label : Option String := none
  field : Option String := none
  timestamp : Option TimestampMarker := none
  deriving DecidableEq, Repr

inductive IndexKind where
  | isolated
  | clustered
  deriving DecidableEq, Repr

def IndexKind.name : IndexKind → String
  | .isolated => "isolated"
  | .clustered => "clustered"

inductive Casing where
  | default
  | upper
  | lower
  | none
  deriving DecidableEq, Repr

def Casing.name : Casing → String
  | .default => "default"
  | .upper => "upper"
  | .lower => "lower"
  | .none => "none"

structure KeyMetadata where
  field : Option String := none
  composite : List String := []
  casing : Option Casing := none
  deriving DecidableEq, Repr

structure IndexMetadata where
  name : String
  pk : KeyMetadata
  sk : Option KeyMetadata := none
  index : Option String := none
  collection : Option String := none
  kind : Option IndexKind := none
  scope : Option String := none
  deriving DecidableEq, Repr

def IndexMetadata.compositeReferences (index : IndexMetadata) : List String :=
  index.pk.composite ++ (index.sk.map KeyMetadata.composite).getD []

structure EntityMetadata where
  node : TypeId
  entity : String
  service : Option String := none
  version : Option String := none
  indexes : List IndexMetadata := []
  properties : SortedMap PropertyMetadata := .empty

namespace EntityMetadata

def addIndex (entity : EntityMetadata) (index : IndexMetadata) : EntityMetadata :=
  { entity with indexes := entity.indexes ++ [index] }

def property? (entity : EntityMetadata) (name : String) : Option PropertyMetadata :=
  entity.properties.get? name

def modifyProperty (entity : EntityMetadata) (name : String)
    (change : PropertyMetadata → PropertyMetadata) : EntityMetadata :=
  let metadata := (entity.property? name).getD {}
  { entity with properties := entity.properties.insert name (change metadata) }

def label (entity : EntityMetadata) (property value : String) : EntityMetadata :=
  entity.modifyProperty property fun metadata => { metadata with label := some value }

def field (entity : EntityMetadata) (property value : String) : EntityMetadata :=
  entity.modifyProperty property fun metadata => { metadata with field := some value }

def timestamp (entity : EntityMetadata) (property : String) (marker : TimestampMarker) :
    EntityMetadata :=
  entity.modifyProperty property fun metadata => { metadata with timestamp := some marker }

end EntityMetadata

structure Metadata where
  entities : List EntityMetadata := []

namespace Metadata

def add (metadata : Metadata) (entity : EntityMetadata) : Metadata :=
  { entities := metadata.entities ++ [entity] }

def entity? (metadata : Metadata) (node : TypeId) : Option EntityMetadata :=
  metadata.entities.find? fun entity => entity.node == node

def property? (metadata : Metadata) (node : TypeId) (property : String) :
    Option PropertyMetadata :=
  (metadata.entity? node).bind fun entity => entity.property? property

end Metadata

/-! ## Models -/

structure Model where
  graph : Graph
  metadata : Metadata := {}

end EntitySchema
