import EntitySchema.Schema.Basic
/-!
How the annotated entities of a model become schemas.
-/

namespace EntitySchema

namespace Schema

def entityRecord (graph : Graph) (entity : EntityMetadata) : Except CompileError RecordType :=
  match entityNameFault? entity.entity with
  | some fault => .error (.located entity.entity (.notAnEntity fault.message))
  | none =>
    let refuse (node : TypeNode) : Except CompileError RecordType :=
      .error (.located entity.entity (.notAnEntity ("metadata is attached to " ++ node.kindName ++
        " '" ++ node.displayName ++ "', expected a record")))
    match graph.get entity.node with
    | .error error => .error (.ofGraphError error)
    | .ok (.record record) =>
      if record.arrayElement?.isSome then refuse (.record record) else .ok record
    | .ok other => refuse other

/-- A key without a field of its own is stored under a name made from its index. -/
def keyOf (metadata : KeyMetadata) (indexName suffix : String) : Key :=
  { field := metadata.field.getD (indexName ++ suffix)
    composite := metadata.composite
    casing := metadata.casing }

def indexOf (metadata : IndexMetadata) : Index :=
  let indexName := metadata.index.getD ""
  { pk := keyOf metadata.pk indexName "pk"
    sk := metadata.sk.map fun key => keyOf key indexName "sk"
    index := metadata.index
    collection := metadata.collection
    kind := metadata.kind
    scope := metadata.scope }

/-- An index of an entity. Its keys may only be made of properties that the record declares
itself. -/
def checkedIndex (entity : EntityMetadata) (record : RecordType) (index : IndexMetadata) :
    Except CompileError (String × Index) :=
  match index.compositeReferences.find? fun name => (record.property? name).isNone with
  | some missing =>
    .error (.located (entity.entity ++ "." ++ index.name)
      (.invalidReference entity.entity index.name missing))
  | none => .ok (index.name, indexOf index)

def identityOf (entity : EntityMetadata) (config : Config) : Identity :=
  { entity := entity.entity
    service := (entity.service.or config.model.defaultService).getD entity.entity
    version := entity.version.getD config.model.defaultVersion }

/-- The schema of an entity. Its attributes are the properties that its record declares itself. -/
def ofEntity (graph : Graph) (config : Config) (entity : EntityMetadata) :
    Except CompileError Schema := do
  let record ← entityRecord graph entity
  let attributes ← record.properties.mapM fun property => do
    return (property.name, ← Attribute.compose graph entity property)
  let indexes ← entity.indexes.mapM (checkedIndex entity record)
  return { attributes, indexes, identity := identityOf entity config }

def ofEntities (graph : Graph) (config : Config) :
    List String → List EntityMetadata → Except CompileError (List Schema)
  | _, [] => .ok []
  | taken, entity :: rest =>
    if taken.contains entity.entity then .error (.duplicateEntity entity.entity)
    else do
      let schema ← ofEntity graph config entity
      let schemas ← ofEntities graph config (entity.entity :: taken) rest
      return schema :: schemas

end Schema

def assemble (graph : Graph) (metadata : Metadata) (config : Config) :
    Except CompileError (List Schema) :=
  Schema.ofEntities graph config [] metadata.entities

end EntitySchema
