import EntitySchema.CompileError
import EntitySchema.Constraint
import EntitySchema.DateTime.Timestamp
import EntitySchema.Pattern.Basic
/-!
Checks of values against constraints, and the source text that makes the same checks where the
schema is used.

A check only concerns values of one kind, text or numbers; all other values pass.
-/

namespace EntitySchema

inductive Check where
  | minLength (bound : UInt64)
  | maxLength (bound : UInt64)
  | minValue (bound : Number)
  | maxValue (bound : Number)
  | integer
  | finite
  | pattern (text : String) (pattern : Pattern)
  | dateTime (kind : DateTimeKind)

def DateTimeKind.accepts (kind : DateTimeKind) (text : String) : Bool :=
  match kind with
  | .utc | .offset => isTimestamp text
  | .plainDate => isPlainDate text
  | .plainTime => isPlainTime text

namespace Check

def name : Check → String
  | .minLength _ => "min_length"
  | .maxLength _ => "max_length"
  | .minValue _ => "min_value"
  | .maxValue _ => "max_value"
  | .integer => "integer"
  | .finite => "finite"
  | .pattern .. => "pattern"
  | .dateTime _ => "date_time"

/-- Lengths are counted in UTF-16 units. -/
def isViolatedByText (check : Check) (text : String) : Bool :=
  match check with
  | .minLength bound => utf16Length text.toList < bound.toNat
  | .maxLength bound => bound.toNat < utf16Length text.toList
  | .pattern _ expected => !expected.isFoundIn text
  | .dateTime kind => !kind.accepts text
  | _ => false

def isViolatedByNumber (check : Check) (number : Number) : Bool :=
  match check with
  | .minValue bound => number.lessThan bound
  | .maxValue bound => bound.lessThan number
  | .integer => !number.isIntegral
  | .finite => !number.isFinite
  | _ => false

def isViolatedBy (check : Check) : Value → Bool
  | .text text => check.isViolatedByText text
  | .number number => check.isViolatedByNumber number
  | _ => false

def message : Check → String
  | .minLength bound => "must be at least " ++ Nat.repr bound.toNat ++ " characters"
  | .maxLength bound => "must be at most " ++ Nat.repr bound.toNat ++ " characters"
  | .minValue bound => "must be at least " ++ bound.text
  | .maxValue bound => "must be at most " ++ bound.text
  | .integer => "must be an integer"
  | .finite => "must be a finite number"
  | .pattern text _ => "must match pattern " ++ text
  | .dateTime .utc => "must be a valid UTC date-time"
  | .dateTime .offset => "must be a valid date-time with offset"
  | .dateTime .plainDate => "must be a valid date (YYYY-MM-DD)"
  | .dateTime .plainTime => "must be a valid time (HH:MM[:SS[.fff]])"

def ofTextGuard (test : String) : String := "typeof value === \"string\" && " ++ test

def ofNumberGuard (test : String) : String := "typeof value === \"number\" && " ++ test

/-- Source of an expression over `value` that is true if the check fails. -/
def guard : Check → String
  | .minLength bound => ofTextGuard ("value.length < " ++ Nat.repr bound.toNat)
  | .maxLength bound => ofTextGuard ("value.length > " ++ Nat.repr bound.toNat)
  | .minValue bound => ofNumberGuard ("value < " ++ bound.text)
  | .maxValue bound => ofNumberGuard ("value > " ++ bound.text)
  | .integer => ofNumberGuard "!Number.isInteger(value)"
  | .finite => ofNumberGuard "!Number.isFinite(value)"
  | .pattern text _ => ofTextGuard ("!new RegExp(" ++ quote text ++ ").test(value)")
  | .dateTime .utc | .dateTime .offset => ofTextGuard "Number.isNaN(Date.parse(value))"
  | .dateTime .plainDate =>
    ofTextGuard "!/^\\d\x7b4\x7d-\\d\x7b2\x7d-\\d\x7b2\x7d$/.test(value)"
  | .dateTime .plainTime =>
    ofTextGuard "!/^\\d\x7b2\x7d:\\d\x7b2\x7d(:\\d\x7b2\x7d(\\.\\d+)?)?$/.test(value)"

end Check

/-! ## Validators -/

structure Violation where
  check : String
  message : String
  deriving DecidableEq, Repr

structure Validator where
  property : String
  checks : List Check

namespace Validator

def report (property : String) (check : Check) : String := property ++ " " ++ check.message

def violation? (validator : Validator) (value : Value) : Option Violation :=
  (validator.checks.find? fun check => check.isViolatedBy value).map fun check =>
    { check := check.name, message := report validator.property check }

def clause (property : String) (check : Check) : String :=
  "if (" ++ check.guard ++ ") \x7b throw new Error(" ++ quote (report property check) ++ "); \x7d "

def source (validator : Validator) : String :=
  "(value) => \x7b " ++ String.join (validator.checks.map (clause validator.property)) ++
    "return true; \x7d"

example :
    source { property := "age", checks := [.integer] } =
      "(value) => \x7b if (typeof value === \"number\" && !Number.isInteger(value)) \x7b " ++
        "throw new Error(\"age must be an integer\"); \x7d return true; \x7d" := by
  decide +kernel

end Validator

def Constraints.checks? (constraints : Constraints) : Option (List Check) := do
  let facets := constraints.facets
  let pattern ←
    match facets.pattern with
    | none => some []
    | some text => (Pattern.ofText? text).map fun pattern => [Check.pattern text pattern]
  return (facets.minLength.map Check.minLength).toList ++
    (facets.maxLength.map Check.maxLength).toList ++
    (facets.minValue.map Check.minValue).toList ++
    (facets.maxValue.map Check.maxValue).toList ++
    (if constraints.isInteger then [Check.integer] else []) ++
    (if constraints.isFloat then [Check.finite] else []) ++
    pattern ++ (constraints.dateTime.map Check.dateTime).toList

def Constraints.validator (constraints : Constraints) (property : String) :
    Except CompileError (Option Validator) :=
  match constraints.checks? with
  | some [] => .ok none
  | some checks => .ok (some { property, checks })
  | none => .error (.unlocated (.invalidPattern (constraints.facets.pattern.getD "") none))

end EntitySchema
