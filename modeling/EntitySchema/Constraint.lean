import EntitySchema.Model.Graph
/-!
The constraints that apply to the values of a property.

A property takes each facet from the most specific declaration of it: its own, or else that of the
first scalar along the derivation of its type. What kind of number or point in time a value stands
for comes from the built-in scalars along the derivation.
-/

namespace EntitySchema

def Facets.orElse (facets fallback : Facets) : Facets :=
  { minLength := facets.minLength.or fallback.minLength
    maxLength := facets.maxLength.or fallback.maxLength
    minValue := facets.minValue.or fallback.minValue
    maxValue := facets.maxValue.or fallback.maxValue
    pattern := facets.pattern.or fallback.pattern }

/-- The allowed values of an enum are kept for information only: no check is made of them. -/
structure Constraints where
  facets : Facets := {}
  isInteger : Bool := false
  isFloat : Bool := false
  dateTime : Option DateTimeKind := none
  enumValues : List Literal := []
  deriving Repr

namespace Constraints

def isDateTime (constraints : Constraints) : Bool := constraints.dateTime.isSome

def hasChecks (constraints : Constraints) : Bool :=
  !constraints.facets.isEmpty || constraints.isInteger || constraints.isFloat ||
    constraints.dateTime.isSome

def classify (constraints : Constraints) (intrinsic : Intrinsic) : Constraints :=
  { constraints with
    isInteger := constraints.isInteger || intrinsic.isInteger
    isFloat := constraints.isFloat || intrinsic.isFloat
    dateTime := constraints.dateTime.or intrinsic.dateTimeKind? }

def addScalar (constraints : Constraints) (scalar : ScalarType) : Constraints :=
  let constraints := { constraints with facets := constraints.facets.orElse scalar.facets }
  match Intrinsic.ofName? scalar.name with
  | some intrinsic => constraints.classify intrinsic
  | none => constraints

/-- The constraints of a property whose type has the given derivation. A value that has to be an
integer is not checked as a float. -/
def ofChain (facets : Facets) (chain : List ScalarType) : Constraints :=
  let constraints := chain.foldl addScalar { facets }
  { constraints with isFloat := constraints.isFloat && !constraints.isInteger }

def resolve (graph : Graph) (property : Property) : Except GraphError Constraints :=
  let own : Constraints := { facets := property.facets }
  match graph.get property.type with
  | .error error => .error error
  | .ok (.scalar _) => (graph.scalarChain property.type).map (ofChain property.facets)
  | .ok (.enum enum) => .ok { own with enumValues := enum.values }
  | .ok (.union union) =>
    (graph.unionLiterals union).map fun values => { own with enumValues := values.getD [] }
  | .ok _ => .ok own

end Constraints

end EntitySchema
