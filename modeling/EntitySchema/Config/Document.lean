import EntitySchema.Config.Basic
import EntitySchema.Json.Decoding
import EntitySchema.Toml.Reader
/-!
Settings in documents. A setting that is missing has its default, and a key that is no setting is
an error.
-/

namespace EntitySchema

/-- An object, or an array that stands for one, without other keys than the given ones. Surplus
items of an array are refused or ignored. -/
def Json.asSettings? (ignoresSurplus : Bool) (names : List String) : Json → Option Json
  | .object fields =>
    if fields.all fun field => names.contains field.1 then some (.object fields) else none
  | .array items =>
    if ignoresSurplus || items.length ≤ names.length then some (.object (names.zip items)) else none
  | _ => none

/-- A count, which has to fit an unsigned word. -/
def Json.asNat? (json : Json) : Option Nat := json.asWord?.map UInt64.toNat

namespace ModelSettings

def ofJson? (ignoresSurplus : Bool) (json : Json) : Option ModelSettings := do
  let json ← json.asSettings? ignoresSurplus ["default_version", "default_service"]
  let defaults : ModelSettings := {}
  return {
    defaultVersion := ← json.defaulted Json.asString? defaults.defaultVersion "default_version"
    defaultService := ← json.optional Json.asString? "default_service" }

end ModelSettings

namespace OutputSettings

def ofJson? (ignoresSurplus : Bool) (json : Json) : Option OutputSettings := do
  let json ← json.asSettings? ignoresSurplus ["import_module", "custom_type", "export", "indent"]
  let defaults : OutputSettings := {}
  return {
    importModule := ← json.defaulted Json.asString? defaults.importModule "import_module"
    customType := ← json.defaulted Json.asString? defaults.customType "custom_type"
    exported := ← json.defaulted Json.asBool? defaults.exported "export"
    indent := ← json.defaulted Json.asNat? defaults.indent "indent" }

end OutputSettings

namespace TimestampSettings

def ofJson? (ignoresSurplus : Bool) (json : Json) : Option TimestampSettings := do
  let json ← json.asSettings? ignoresSurplus ["now_source"]
  let defaults : TimestampSettings := {}
  return { nowSource := ← json.defaulted Json.asString? defaults.nowSource "now_source" }

end TimestampSettings

namespace Config

def ofSettings? (ignoresSurplus : Bool) (json : Json) : Option Config := do
  let json ← json.asSettings? ignoresSurplus ["model", "output", "timestamps"]
  return {
    model := ← json.defaulted (ModelSettings.ofJson? ignoresSurplus) {} "model"
    output := ← json.defaulted (OutputSettings.ofJson? ignoresSurplus) {} "output"
    timestamps := ← json.defaulted (TimestampSettings.ofJson? ignoresSurplus) {} "timestamps" }

def ofJson? (json : Json) : Option Config := ofSettings? false json

def ofToml? (text : String) : Option Config := (Toml.read? text).bind (ofSettings? true)

inductive LoadError where
  | unreadable
  | invalid (fault : ConfigFault)
  deriving DecidableEq, Repr

def load (text : String) : Except LoadError Config :=
  match ofToml? text with
  | none => .error .unreadable
  | some config =>
    match config.fault? with
    | some fault => .error (.invalid fault)
    | none => .ok config

example : (load "output.indent = 3").toOption = some { output := { indent := 3 } } := by
  decide +kernel
example : (load "[output]\nindent = 3\n[output]\n").toOption = none := by decide +kernel
example : (load "model = [\"2\", \"svc\", 1.5]").toOption =
    some { model := { defaultVersion := "2", defaultService := "svc" } } := by decide +kernel

end Config

end EntitySchema
