import Mathlib
import EntitySchema.Constraint
import EntitySchema.Proofs.AttributeType
import EntitySchema.Proofs.Derivation
/-!
Where the constraints of a property come from.

Along the derivation of a scalar, each facet is taken from the first place that declares it, and the
property itself comes first. The families of the built-in names are collected from the whole
derivation, and only then does the integer family take precedence.
-/

namespace EntitySchema

/-! ## Built-in names -/

def ScalarType.IsNamedIn (scalar : ScalarType) (family : Intrinsic → Bool) : Prop :=
  ∃ intrinsic : Intrinsic, intrinsic.name = scalar.name ∧ family intrinsic = true

def ScalarType.dateTimeKind? (scalar : ScalarType) : Option DateTimeKind :=
  (Intrinsic.ofName? scalar.name).bind Intrinsic.dateTimeKind?

theorem ScalarType.any_ofName?_iff {scalar : ScalarType} {family : Intrinsic → Bool} :
    (Intrinsic.ofName? scalar.name).any family = true ↔ scalar.IsNamedIn family := by
  simp only [Option.any_eq_true, Intrinsic.ofName?_eq_some_iff, IsNamedIn]

/-! ## Runs along a derivation -/

section Runs

variable {State Item α : Type} {step : State → Item → State}

/-- A slot that every step fills only if it is still empty holds the first declaration in the
end. -/
theorem slot_foldl (slot : State → Option α) (declared : Item → Option α)
    (fills : ∀ state item, slot (step state item) = (slot state).or (declared item))
    (start : State) (items : List Item) :
    slot (items.foldl step start) = (slot start).or (items.findSome? declared) := by
  induction items generalizing start with
  | nil => simp
  | cons item rest induction =>
      rw [List.foldl_cons, induction, fills, Option.or_assoc, List.findSome?_cons]
      cases declared item <;> simp

/-- A flag that every step may set but none clears is set in the end if any item sets it. -/
theorem flag_foldl (flag : State → Bool) (sets : Item → Bool)
    (raises : ∀ state item, flag (step state item) = (flag state || sets item))
    (start : State) (items : List Item) :
    flag (items.foldl step start) = (flag start || items.any sets) := by
  induction items generalizing start with
  | nil => simp
  | cons item rest induction =>
      rw [List.foldl_cons, induction, raises, Bool.or_assoc, List.any_cons]

end Runs

structure Facets.AreFirstOf (declared : List Facets) (facets : Facets) : Prop where
  minLength : facets.minLength = declared.findSome? Facets.minLength
  maxLength : facets.maxLength = declared.findSome? Facets.maxLength
  minValue : facets.minValue = declared.findSome? Facets.minValue
  maxValue : facets.maxValue = declared.findSome? Facets.maxValue
  pattern : facets.pattern = declared.findSome? Facets.pattern

theorem Facets.AreFirstOf.unique {declared : List Facets} {facets others : Facets}
    (first : AreFirstOf declared facets) (second : AreFirstOf declared others) :
    facets = others := by
  cases facets
  cases others
  simp only [Facets.mk.injEq]
  exact ⟨first.minLength.trans second.minLength.symm, first.maxLength.trans second.maxLength.symm,
    first.minValue.trans second.minValue.symm, first.maxValue.trans second.maxValue.symm,
    first.pattern.trans second.pattern.symm⟩

namespace Constraints

/-! ## One scalar of a derivation -/

section Step

variable (constraints : Constraints) (scalar : ScalarType)

theorem facets_addScalar :
    (constraints.addScalar scalar).facets = constraints.facets.orElse scalar.facets := by
  unfold addScalar
  cases Intrinsic.ofName? scalar.name <;> rfl

theorem isInteger_addScalar :
    (constraints.addScalar scalar).isInteger =
      (constraints.isInteger || (Intrinsic.ofName? scalar.name).any Intrinsic.isInteger) := by
  unfold addScalar
  cases Intrinsic.ofName? scalar.name <;> simp [classify]

theorem isFloat_addScalar :
    (constraints.addScalar scalar).isFloat =
      (constraints.isFloat || (Intrinsic.ofName? scalar.name).any Intrinsic.isFloat) := by
  unfold addScalar
  cases Intrinsic.ofName? scalar.name <;> simp [classify]

theorem dateTime_addScalar :
    (constraints.addScalar scalar).dateTime =
      constraints.dateTime.or scalar.dateTimeKind? := by
  unfold addScalar ScalarType.dateTimeKind?
  cases Intrinsic.ofName? scalar.name <;> simp [classify]

theorem enumValues_addScalar :
    (constraints.addScalar scalar).enumValues = constraints.enumValues := by
  unfold addScalar
  cases Intrinsic.ofName? scalar.name <;> rfl

end Step

/-! ## Whole derivations -/

structure AreOfChain (own : Facets) (chain : List ScalarType) (constraints : Constraints) :
    Prop where
  facets : Facets.AreFirstOf (own :: chain.map ScalarType.facets) constraints.facets
  isInteger : constraints.isInteger = true ↔ ∃ scalar ∈ chain, scalar.IsNamedIn Intrinsic.isInteger
  isFloat : constraints.isFloat = true ↔
    (∃ scalar ∈ chain, scalar.IsNamedIn Intrinsic.isFloat) ∧
      ∀ scalar ∈ chain, ¬scalar.IsNamedIn Intrinsic.isInteger
  dateTime : constraints.dateTime = chain.findSome? ScalarType.dateTimeKind?
  enumValues : constraints.enumValues = []

theorem AreOfChain.unique {own : Facets} {chain : List ScalarType}
    {constraints others : Constraints} (first : AreOfChain own chain constraints)
    (second : AreOfChain own chain others) : constraints = others := by
  have sameInteger := Bool.eq_iff_iff.mpr (first.isInteger.trans second.isInteger.symm)
  have sameFloat := Bool.eq_iff_iff.mpr (first.isFloat.trans second.isFloat.symm)
  cases constraints
  cases others
  simp only [Constraints.mk.injEq]
  exact ⟨first.facets.unique second.facets, sameInteger, sameFloat,
    first.dateTime.trans second.dateTime.symm, first.enumValues.trans second.enumValues.symm⟩

theorem facet_foldl_addScalar {α : Type} {facet : Facets → Option α}
    (fallsBack : ∀ facets fallback : Facets,
      facet (facets.orElse fallback) = (facet facets).or (facet fallback))
    (own : Facets) (chain : List ScalarType) :
    facet (chain.foldl addScalar { facets := own }).facets =
      (own :: chain.map ScalarType.facets).findSome? facet := by
  have run := slot_foldl (fun constraints : Constraints => facet constraints.facets)
    (fun scalar : ScalarType => facet scalar.facets)
    (fun constraints scalar => by rw [facets_addScalar, fallsBack]) { facets := own } chain
  rw [run, List.findSome?_cons, List.findSome?_map]
  cases facet own <;> rfl

theorem areFirstOf_foldl_addScalar (own : Facets) (chain : List ScalarType) :
    Facets.AreFirstOf (own :: chain.map ScalarType.facets)
      (chain.foldl addScalar { facets := own }).facets where
  minLength := facet_foldl_addScalar (fun _ _ => rfl) own chain
  maxLength := facet_foldl_addScalar (fun _ _ => rfl) own chain
  minValue := facet_foldl_addScalar (fun _ _ => rfl) own chain
  maxValue := facet_foldl_addScalar (fun _ _ => rfl) own chain
  pattern := facet_foldl_addScalar (fun _ _ => rfl) own chain

theorem isInteger_foldl_addScalar_iff (own : Facets) (chain : List ScalarType) :
    (chain.foldl addScalar { facets := own }).isInteger = true ↔
      ∃ scalar ∈ chain, scalar.IsNamedIn Intrinsic.isInteger := by
  rw [flag_foldl Constraints.isInteger _ isInteger_addScalar]
  simp [ScalarType.any_ofName?_iff]

theorem isFloat_foldl_addScalar_iff (own : Facets) (chain : List ScalarType) :
    (chain.foldl addScalar { facets := own }).isFloat = true ↔
      ∃ scalar ∈ chain, scalar.IsNamedIn Intrinsic.isFloat := by
  rw [flag_foldl Constraints.isFloat _ isFloat_addScalar]
  simp [ScalarType.any_ofName?_iff]

theorem enumValues_foldl_addScalar (start : Constraints) (chain : List ScalarType) :
    (chain.foldl addScalar start).enumValues = start.enumValues := by
  induction chain generalizing start with
  | nil => rfl
  | cons scalar rest induction => rw [List.foldl_cons, induction, enumValues_addScalar]

/-- Only after the whole derivation has been looked at does an integer stop being a float. -/
theorem areOfChain_ofChain (own : Facets) (chain : List ScalarType) :
    AreOfChain own chain (ofChain own chain) where
  facets := areFirstOf_foldl_addScalar own chain
  isInteger := isInteger_foldl_addScalar_iff own chain
  isFloat := by
    simp only [ofChain, Bool.and_eq_true, Bool.not_eq_true', ← Bool.not_eq_true,
      isInteger_foldl_addScalar_iff, isFloat_foldl_addScalar_iff, not_exists, not_and]
  dateTime := slot_foldl Constraints.dateTime _ dateTime_addScalar { facets := own } chain
  enumValues := enumValues_foldl_addScalar { facets := own } chain

theorem eq_ofChain_iff {own : Facets} {chain : List ScalarType} {constraints : Constraints} :
    ofChain own chain = constraints ↔ AreOfChain own chain constraints := by
  constructor
  · intro equal
    subst equal
    exact areOfChain_ofChain own chain
  · intro ofChain
    exact (areOfChain_ofChain own chain).unique ofChain

end Constraints

/-! ## Unions -/

namespace Graph

variable {graph : Graph}

/-- The first variant that is not a literal of the graph, with the variants before it. -/
def StopsAtVariant (graph : Graph) (variants : List TypeId) (id : TypeId) : Prop :=
  ∃ before after, variants = before ++ id :: after ∧
    (∀ earlier ∈ before, graph.literal? earlier ≠ none) ∧ graph.literal? id = none

theorem stopsAtVariant_nil (id : TypeId) : ¬graph.StopsAtVariant [] id := by
  intro stops
  rcases stops with ⟨before, after, split, _⟩
  simp at split

theorem stopsAtVariant_cons_iff {first id : TypeId} {rest : List TypeId} :
    graph.StopsAtVariant (first :: rest) id ↔
      (graph.literal? first = none ∧ first = id) ∨
        (graph.literal? first ≠ none ∧ graph.StopsAtVariant rest id) := by
  constructor
  · intro stops
    rcases stops with ⟨before, after, split, literals, other⟩
    cases before with
    | nil =>
        rw [List.nil_append, List.cons.injEq] at split
        rw [← split.1] at other
        exact Or.inl ⟨other, split.1⟩
    | cons head before =>
        rw [List.cons_append, List.cons.injEq] at split
        rcases List.forall_mem_cons.mp literals with ⟨ofHead, ofBefore⟩
        rw [← split.1] at ofHead
        exact Or.inr ⟨ofHead, before, after, split.2, ofBefore, other⟩
  · intro either
    rcases either with ⟨other, same⟩ | ⟨literal, before, after, split, literals, other⟩
    · subst same
      exact ⟨[], rest, rfl, by simp, other⟩
    · refine ⟨first :: before, after, by rw [split, List.cons_append], ?_, other⟩
      exact List.forall_mem_cons.mpr ⟨literal, literals⟩

/-- Nothing behind the variant at which the literals stop is looked at. -/
theorem literalValues_of_stopsAtVariant {variants : List TypeId} {id : TypeId}
    (stops : graph.StopsAtVariant variants id) :
    graph.literalValues variants = (graph.get id).map fun _ => none := by
  induction variants with
  | nil => exact absurd stops (stopsAtVariant_nil id)
  | cons first rest induction =>
      rcases stopsAtVariant_cons_iff.mp stops with ⟨other, same⟩ | ⟨literal, inRest⟩
      · subst same
        rw [literalValues, get]
        cases found : graph.get? first with
        | none => rfl
        | some node =>
            have notLiteral : node.literal? = none := by simpa [literal?, found] using other
            simp [notLiteral, Except.map]
      · rcases Option.ne_none_iff_exists'.mp literal with ⟨value, ofFirst⟩
        rcases Option.bind_eq_some_iff.mp ofFirst with ⟨node, found, ofNode⟩
        rw [literalValues, get_eq_ok_iff.mpr found]
        simp only [ofNode, induction inRest]
        cases graph.get id <;> rfl

theorem exists_stopsAtVariant_or_areLiterals (graph : Graph) (variants : List TypeId) :
    (∃ id, graph.StopsAtVariant variants id) ∨ ∃ values, graph.AreLiterals variants values := by
  induction variants with
  | nil => exact Or.inr ⟨[], rfl⟩
  | cons first rest induction =>
      cases ofFirst : graph.literal? first with
      | none => exact Or.inl ⟨first, stopsAtVariant_cons_iff.mpr (Or.inl ⟨ofFirst, rfl⟩)⟩
      | some value =>
          rcases induction with ⟨id, stops⟩ | ⟨values, literals⟩
          · exact Or.inl ⟨id, stopsAtVariant_cons_iff.mpr (Or.inr ⟨by simp [ofFirst], stops⟩)⟩
          · exact Or.inr ⟨value :: values,
              areLiterals_cons_iff.mpr ⟨value, values, ofFirst, literals, rfl⟩⟩

/-- The allowed values of a union: none are kept if it is empty or not all variants are literals. -/
def unionValues (graph : Graph) (union : UnionType) : Except GraphError (List Literal) :=
  (graph.unionLiterals union).map fun values => values.getD []

theorem unionValues_of_areLiterals {union : UnionType} {values : List Literal}
    (literals : graph.AreLiterals union.variants values) :
    graph.unionValues union = .ok values := by
  cases variants : union.variants with
  | nil =>
      rw [variants, areLiterals_nil_iff] at literals
      simp [unionValues, unionLiterals, variants, Except.map, ← literals]
  | cons first rest =>
      have nonempty : union.variants ≠ [] := by simp [variants]
      simp [unionValues, unionLiterals_eq_some_iff.mpr ⟨nonempty, literals⟩, Except.map]

theorem unionValues_of_stopsAtVariant {union : UnionType} {id : TypeId}
    (stops : graph.StopsAtVariant union.variants id) :
    graph.unionValues union = (graph.get id).map fun _ => [] := by
  have nonempty : union.variants.isEmpty = false := by
    cases variants : union.variants with
    | nil => exact absurd (variants ▸ stops) (stopsAtVariant_nil id)
    | cons first rest => rfl
  simp only [unionValues, unionLiterals, nonempty, Bool.false_eq_true, if_false,
    literalValues_of_stopsAtVariant stops]
  cases graph.get id <;> rfl

end Graph

/-! ## Properties -/

namespace Constraints

/-- The constraints of a property, by the kind of its type. Only scalars add anything to the facets
of the property itself. -/
inductive AreOf (graph : Graph) (property : Property) : Constraints → Prop
  | scalar {scalar : ScalarType} {chain : List ScalarType} {constraints : Constraints} :
      graph.get? property.type = some (.scalar scalar) →
      graph.scalarChain property.type = .ok chain →
      AreOfChain property.facets chain constraints → AreOf graph property constraints
  | enum {enum : EnumType} :
      graph.get? property.type = some (.enum enum) →
      AreOf graph property { facets := property.facets, enumValues := enum.values }
  | literals {union : UnionType} {values : List Literal} :
      graph.get? property.type = some (.union union) → graph.AreLiterals union.variants values →
      AreOf graph property { facets := property.facets, enumValues := values }
  | mixed {union : UnionType} {id : TypeId} {node : TypeNode} :
      graph.get? property.type = some (.union union) → graph.StopsAtVariant union.variants id →
      graph.get? id = some node → AreOf graph property { facets := property.facets }
  | other {node : TypeNode} :
      graph.get? property.type = some node → (∀ scalar, node ≠ .scalar scalar) →
      (∀ enum, node ≠ .enum enum) → (∀ union, node ≠ .union union) →
      AreOf graph property { facets := property.facets }

/-- What has to be missing for the constraints of a property to be unknown: its type, part of the
derivation of a scalar, or a variant that the literals of a union lead up to. -/
inductive AreUnknown (graph : Graph) (property : Property) : Prop
  | type : graph.get? property.type = none → AreUnknown graph property
  | chain {scalar : ScalarType} {error : GraphError} :
      graph.get? property.type = some (.scalar scalar) →
      graph.scalarChain property.type = .error error → AreUnknown graph property
  | variant {union : UnionType} {id : TypeId} :
      graph.get? property.type = some (.union union) → graph.StopsAtVariant union.variants id →
      graph.get? id = none → AreUnknown graph property

variable {graph : Graph} {property : Property}

theorem resolve_of_union {union : UnionType}
    (found : graph.get? property.type = some (.union union)) :
    resolve graph property =
      (graph.unionValues union).map fun values =>
        { facets := property.facets, enumValues := values } := by
  rw [resolve, Graph.get_eq_ok_iff.mpr found, Graph.unionValues]
  dsimp only
  cases graph.unionLiterals union <;> rfl

theorem resolve_of_areOf {constraints : Constraints} (areOf : AreOf graph property constraints) :
    resolve graph property = .ok constraints := by
  cases areOf with
  | scalar found followed ofChain =>
      rw [resolve, Graph.get_eq_ok_iff.mpr found]
      simp [followed, Except.map, eq_ofChain_iff.mpr ofChain]
  | enum found => rw [resolve, Graph.get_eq_ok_iff.mpr found]
  | literals found literals =>
      rw [resolve_of_union found, Graph.unionValues_of_areLiterals literals]
      rfl
  | mixed found stops known =>
      rw [resolve_of_union found, Graph.unionValues_of_stopsAtVariant stops,
        Graph.get_eq_ok_iff.mpr known]
      rfl
  | @other node found notScalar notEnum notUnion =>
      rw [resolve, Graph.get_eq_ok_iff.mpr found]
      cases node with
      | scalar scalar => exact absurd rfl (notScalar scalar)
      | enum enum => exact absurd rfl (notEnum enum)
      | union union => exact absurd rfl (notUnion union)
      | _ => rfl

theorem resolve_of_areUnknown (unknown : AreUnknown graph property) :
    ∃ error, resolve graph property = .error error := by
  cases unknown with
  | type missing => exact ⟨_, by rw [resolve, Graph.get, missing]⟩
  | chain found broken => exact ⟨_, by rw [resolve, Graph.get_eq_ok_iff.mpr found, broken]; rfl⟩
  | @variant union id found stops missing =>
      rw [resolve_of_union found, Graph.unionValues_of_stopsAtVariant stops, Graph.get, missing]
      exact ⟨_, rfl⟩

theorem areOf_or_areUnknown (graph : Graph) (property : Property) :
    (∃ constraints, AreOf graph property constraints) ∨ AreUnknown graph property := by
  cases found : graph.get? property.type with
  | none => exact Or.inr (.type found)
  | some node =>
      cases node with
      | scalar scalar =>
          cases followed : graph.scalarChain property.type with
          | error error => exact Or.inr (.chain found followed)
          | ok chain => exact Or.inl ⟨_, .scalar found followed (areOfChain_ofChain _ chain)⟩
      | enum enum => exact Or.inl ⟨_, .enum found⟩
      | union union =>
          rcases graph.exists_stopsAtVariant_or_areLiterals union.variants with
            ⟨id, stops⟩ | ⟨values, literals⟩
          · cases known : graph.get? id with
            | none => exact Or.inr (.variant found stops known)
            | some node => exact Or.inl ⟨_, .mixed found stops known⟩
          · exact Or.inl ⟨_, .literals found literals⟩
      | _ => exact Or.inl ⟨_, .other found (by simp) (by simp) (by simp)⟩

/-- The constraints of a property are those that its own facets and its type declare, and they are
only unknown if something that they depend on is missing. -/
theorem resolve_eq_ok_iff_areOf (graph : Graph) (property : Property) :
    (∀ constraints,
      resolve graph property = .ok constraints ↔ AreOf graph property constraints) ∧
    ((∃ error, resolve graph property = .error error) ↔ AreUnknown graph property) := by
  rcases areOf_or_areUnknown graph property with ⟨constraints, areOf⟩ | unknown
  · have resolved := resolve_of_areOf areOf
    refine ⟨fun others => ⟨?_, resolve_of_areOf⟩, ?_, resolve_of_areUnknown⟩
    · intro equal
      rw [resolved, Except.ok.injEq] at equal
      exact equal ▸ areOf
    · intro failed
      simp [resolved] at failed
  · rcases resolve_of_areUnknown unknown with ⟨error, failed⟩
    refine ⟨fun others => ⟨?_, resolve_of_areOf⟩, fun _ => unknown, resolve_of_areUnknown⟩
    intro resolved
    simp [failed] at resolved

end Constraints

end EntitySchema
