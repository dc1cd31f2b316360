import EntitySchema.Model.Metadata
import EntitySchema.Schema.Assembly
/-!
The generated source: a document that declares each schema as a constant.
-/

namespace EntitySchema

def importLine (config : Config) : String :=
  "import \x7b " ++ config.output.customType ++ " \x7d from " ++
    quote config.output.importModule ++ ";"

example : importLine {} = "import \x7b CustomAttributeType \x7d from \"electrodb\";" := by
  decide +kernel

def Schema.statement (config : Config) (schema : Schema) : Except CompileError String :=
  match (schema.toValue config).write config.output.indent with
  | .error fault => .error ((CompileError.ofWriteFault fault).inContext schema.name)
  | .ok literal =>
    let exportWord := if config.output.exported then "export " else ""
    .ok (exportWord ++ "const " ++ schema.name ++ " = " ++ literal ++ ";")

def needCustomType (schemas : List Schema) : Bool := schemas.any Schema.usesCustomType

def document (config : Config) (schemas : List Schema) : Except CompileError String := do
  let statements ← schemas.mapM (Schema.statement config)
  let imports := if needCustomType schemas then [importLine config] else []
  return String.intercalate "\n\n" (imports ++ statements) ++ "\n"

structure Artifact where
  source : String
  schemas : List Schema
  usesCustomType : Bool

def Artifact.schema? (artifact : Artifact) (name : String) : Option Schema :=
  artifact.schemas.find? fun schema => schema.name == name

def compile (graph : Graph) (metadata : Metadata) (config : Config) :
    Except CompileError Artifact := do
  let schemas ← assemble graph metadata config
  let source ← document config schemas
  return { source, schemas, usesCustomType := needCustomType schemas }

end EntitySchema
