import EntitySchema.Naming
/-!
Settings of the generated source. Every setting has a default.
-/

namespace EntitySchema

structure ModelSettings where
  defaultVersion : String := "1"
  defaultService : Option String := none
  deriving DecidableEq, Repr

/-- The custom attribute type is imported by name from a module. An indent of zero puts a schema on
one line. -/
structure OutputSettings where
  importModule : String := "electrodb"
  customType : String := "CustomAttributeType"
  exported : Bool := true
  indent : Nat := 2
  deriving DecidableEq, Repr

structure TimestampSettings where
  nowSource : String := "() => Date.now()"
  deriving DecidableEq, Repr

structure Config where
  model : ModelSettings := {}
  output : OutputSettings := {}
  timestamps : TimestampSettings := {}
  deriving DecidableEq, Repr

inductive ConfigFault where
  | emptyVersion
  | emptyService
  | customType (fault : NameFault)
  | importModule
  | indent
  | nowSource
  deriving DecidableEq, Repr

namespace ConfigFault

def field : ConfigFault → String
  | .emptyVersion => "model.default_version"
  | .emptyService => "model.default_service"
  | .customType _ => "output.custom_type"
  | .importModule => "output.import_module"
  | .indent => "output.indent"
  | .nowSource => "timestamps.now_source"

def maxIndent : Nat := 8

def reason : ConfigFault → String
  | .emptyVersion | .emptyService | .nowSource => "must not be empty"
  | .customType fault => fault.message
  | .importModule => "must be a non-empty module specifier without quotes"
  | .indent => "must be between 0 and " ++ Nat.repr maxIndent

def message (fault : ConfigFault) : String :=
  "invalid config value for '" ++ fault.field ++ "': " ++ fault.reason

end ConfigFault

def isModuleSpecifier (text : String) : Bool :=
  !text.isEmpty &&
    text.toList.all fun character => character != '"' && character != '\\' && character != '\n'

def Config.fault? (config : Config) : Option ConfigFault :=
  if config.model.defaultVersion.isEmpty then some .emptyVersion
  else if config.model.defaultService == some "" then some .emptyService
  else
    match nameFault? config.output.customType with
    | some fault => some (.customType fault)
    | none =>
      if !isModuleSpecifier config.output.importModule then some .importModule
      else if config.output.indent > ConfigFault.maxIndent then some .indent
      else if isBlankText config.timestamps.nowSource then some .nowSource
      else none

example : Config.fault? {} = none := by decide
example : Config.fault? { output := { indent := 9 } } = some .indent := by decide

end EntitySchema
