import Mathlib
import EntitySchema.Attribute.Type
import EntitySchema.Proofs.TypeExpression
/-!
Which types have an attribute type, and which one.

The attribute type of a type is its translation, node by node: nothing in it depends on how the
type was reached or on what was expanded before.
-/

namespace EntitySchema

namespace Graph

/-- The element type of an array, or of a record that stands for one. -/
def element? (graph : Graph) (id : TypeId) : Option TypeId :=
  match graph.get? id with
  | some (.array element) => some element
  | some (.record record) => record.arrayElement?
  | _ => none

def literal? (graph : Graph) (id : TypeId) : Option Literal :=
  (graph.get? id).bind TypeNode.literal?

def AreLiterals (graph : Graph) (variants : List TypeId) (values : List Literal) : Prop :=
  variants.map graph.literal? = values.map some

inductive Translates (graph : Graph) : TypeId → AttributeType → Prop
  | scalar {id : TypeId} {scalar : ScalarType} {kind : ScalarKind} :
      graph.get? id = some (.scalar scalar) → graph.scalarKind id = .ok kind →
      Translates graph id (.ofScalarKind kind)
  | set {id element : TypeId} {enum : EnumType} :
      graph.element? id = some element → graph.get? element = some (.enum enum) →
      Translates graph id (.set (enum.values.map Literal.plainText))
  | list {id element : TypeId} {items : AttributeType} :
      graph.element? id = some element → (∀ enum, graph.get? element ≠ some (.enum enum)) →
      Translates graph element items → Translates graph id (.list items)
  | map {id : TypeId} {record : RecordType} {properties : List Property}
      {type : Property → AttributeType} :
      graph.get? id = some (.record record) → record.arrayElement? = none →
      graph.recordProperties record = .ok properties →
      (∀ property ∈ properties, Translates graph property.type (type property)) →
      Translates graph id (.map (properties.map fun property => (property.name, type property)))
  | enum {id : TypeId} {enum : EnumType} :
      graph.get? id = some (.enum enum) → Translates graph id (.choice enum.values)
  | literals {id : TypeId} {union : UnionType} {values : List Literal} :
      graph.get? id = some (.union union) → union.variants ≠ [] →
      graph.AreLiterals union.variants values → Translates graph id (.choice values)
  | custom {id : TypeId} {union : UnionType} {expression : String} :
      graph.get? id = some (.union union) →
      (∀ values, ¬graph.AreLiterals union.variants values) →
      graph.typeExpression id = .ok expression → Translates graph id (.custom expression)

variable {graph : Graph} {id : TypeId}

/-! ## Literals -/

theorem areLiterals_nil_iff {values : List Literal} :
    graph.AreLiterals [] values ↔ [] = values := by
  cases values <;> simp [AreLiterals]

theorem areLiterals_cons_iff {variants : List TypeId} {values : List Literal} :
    graph.AreLiterals (id :: variants) values ↔
      ∃ first rest, graph.literal? id = some first ∧ graph.AreLiterals variants rest ∧
        values = first :: rest := by
  cases values with
  | nil => simp [AreLiterals]
  | cons value values => simp [AreLiterals]

theorem AreLiterals.unique {variants : List TypeId} {values others : List Literal}
    (first : graph.AreLiterals variants values) (second : graph.AreLiterals variants others) :
    values = others := by
  rw [AreLiterals] at first second
  exact (List.map_inj_right fun _ _ => Option.some.inj).mp (first.symm.trans second)

theorem literalValues_eq_some_iff {variants : List TypeId} {values : List Literal} :
    graph.literalValues variants = .ok (some values) ↔ graph.AreLiterals variants values := by
  induction variants generalizing values with
  | nil => simp [literalValues, areLiterals_nil_iff]
  | cons id rest induction =>
      rw [areLiterals_cons_iff, literalValues, literal?, get]
      cases graph.get? id with
      | none => simp
      | some node =>
          cases literal : node.literal? with
          | none => simp [literal]
          | some first =>
              simp only [← induction, literal, Option.bind_some]
              cases graph.literalValues rest with
              | error error => simp
              | ok others => cases others <;> simp [eq_comm]

theorem succeeds_literalValues {variants : List TypeId}
    (inRange : ∀ variant ∈ variants, graph.get? variant ≠ none) :
    Succeeds (graph.literalValues variants) := by
  induction variants with
  | nil => exact succeeds_ok _
  | cons id rest induction =>
      obtain ⟨values, ofRest⟩ := induction fun later member =>
        inRange later (List.mem_cons_of_mem _ member)
      rcases Option.ne_none_iff_exists'.mp (inRange id List.mem_cons_self) with ⟨node, found⟩
      rw [literalValues, get, found]
      cases literal : node.literal? <;> simp [literal, ofRest]

theorem unionLiterals_eq_some_iff {union : UnionType} {values : List Literal} :
    graph.unionLiterals union = .ok (some values) ↔
      union.variants ≠ [] ∧ graph.AreLiterals union.variants values := by
  unfold unionLiterals
  cases variants : union.variants with
  | nil => simp
  | cons first rest => simp [literalValues_eq_some_iff]

theorem succeeds_unionLiterals {union : UnionType}
    (inRange : ∀ variant ∈ union.variants, graph.get? variant ≠ none) :
    Succeeds (graph.unionLiterals union) := by
  unfold unionLiterals
  split
  · exact succeeds_ok _
  · exact succeeds_literalValues inRange

/-! ## Uniqueness -/

/-- A type has no more than one translation. -/
theorem Translates.unique {left right : AttributeType} (first : graph.Translates id left)
    (second : graph.Translates id right) : left = right := by
  -- The node decides which constructor applies, so only the cases of equal constructors remain.
  induction first generalizing right with
  | scalar found kind => cases second <;> simp_all [element?]
  | set element found => cases second <;> simp_all [element?]
  | list element notEnum _ induction =>
      cases second with
      | list otherElement _ translates =>
          rcases Option.some.inj (element.symm.trans otherElement) with rfl
          rw [induction translates]
      | _ => simp_all [element?]
  | map found shape ofRecord _ induction =>
      cases second with
      | map otherFound _ otherOfRecord translates =>
          cases found.symm.trans otherFound
          cases ofRecord.symm.trans otherOfRecord
          refine congrArg AttributeType.map (List.map_congr_left fun property member => ?_)
          rw [induction property member (translates property member)]
      | _ => simp_all [element?]
  | enum found => cases second <;> simp_all [element?]
  | literals found nonempty literals =>
      cases second with
      | literals otherFound _ otherLiterals =>
          cases found.symm.trans otherFound
          rw [literals.unique otherLiterals]
      | _ => simp_all [element?]
  | custom found noLiterals expression => cases second <;> simp_all [element?]

/-! ## Expansion, node by node -/

variable {opened : List TypeId} {context : Context}

theorem expandsFrom_leaf_iff (leaf : graph.children id = [])
    (notPlain : graph.isPlainRecord id = false) :
    graph.ExpandsFrom opened context id ↔
      graph.IsAdmissible context id ∧ opened.length ≤ maxChainDepth := by
  rw [expandsFrom_iff, leaf, fits_singleton_of_notPlain notPlain]
  simp

theorem expandsFrom_of_scalar {scalar : ScalarType}
    (found : graph.get? id = some (.scalar scalar)) :
    graph.ExpandsFrom opened context id ↔
      Succeeds (graph.scalarKind id) ∧ opened.length ≤ maxChainDepth := by
  rw [expandsFrom_leaf_iff (by simp [children, found])
    (by simp [isPlainRecord, found]), succeeds_scalarKind_iff]
  simp only [IsAdmissible, found]

theorem expandsFrom_of_enum {enum : EnumType}
    (found : graph.get? id = some (.enum enum)) :
    graph.ExpandsFrom opened context id ↔
      enum.members ≠ [] ∧ opened.length ≤ maxChainDepth := by
  rw [expandsFrom_leaf_iff (by simp [children, found])
    (by simp [isPlainRecord, found])]
  simp only [IsAdmissible, found]

/-- An array is only in the way if its elements are. -/
theorem shape_of_element? (context : Context) {element : TypeId}
    (hasElement : graph.element? id = some element) :
    graph.children id = [element] ∧ graph.isPlainRecord id = false ∧
      graph.contextBelow context id = context ∧ graph.IsAdmissible context id := by
  unfold element? at hasElement
  split at hasElement
  · next found =>
      cases hasElement
      simp [children, isPlainRecord, contextBelow, IsAdmissible, found]
  · next found => simp [children, isPlainRecord, contextBelow, IsAdmissible, found, hasElement]
  · cases hasElement

theorem mem_children_of_element? {element : TypeId}
    (hasElement : graph.element? id = some element) : element ∈ graph.children id := by
  simp [(shape_of_element? .attribute hasElement).1]

theorem mem_children_of_property {record : RecordType} {properties : List Property}
    (found : graph.get? id = some (.record record)) (shape : record.arrayElement? = none)
    (ofRecord : graph.recordProperties record = .ok properties) {property : Property}
    (member : property ∈ properties) : property.type ∈ graph.children id := by
  simpa [children, found, shape, ofRecord] using ⟨property, member, rfl⟩

theorem openedBelow_of_element? (opened : List TypeId) {element : TypeId}
    (hasElement : graph.element? id = some element) : graph.openedBelow opened id = opened := by
  rcases shape_of_element? .attribute hasElement with ⟨_, notPlain, _⟩
  simp [openedBelow, notPlain]

theorem expandsFrom_of_element? {element : TypeId} (hasElement : graph.element? id = some element) :
    graph.ExpandsFrom opened context id ↔ graph.ExpandsFrom opened context element := by
  rcases shape_of_element? context hasElement with ⟨below, notPlain, sameContext, admissible⟩
  rw [expandsFrom_iff, fits_singleton_of_notPlain notPlain,
    openedBelow_of_element? opened hasElement, below, sameContext]
  simp only [admissible, true_and, List.mem_singleton, forall_eq]
  exact ⟨And.right, fun expands => ⟨(expands.fits [] (List.isChain_singleton _)).opened_length_le,
    expands⟩⟩

theorem expandsFrom_of_plainRecord {record : RecordType}
    (found : graph.get? id = some (.record record)) (shape : record.arrayElement? = none) :
    graph.ExpandsFrom opened context id ↔
      graph.Fits opened [id] ∧ ∃ properties, graph.recordProperties record = .ok properties ∧
        ∀ property ∈ properties,
          graph.ExpandsFrom (graph.openedBelow opened id) context property.type := by
  rw [expandsFrom_iff]
  simp only [IsAdmissible, contextBelow, children, found, shape, true_implies]
  constructor
  · rintro ⟨⟨properties, ofRecord⟩, fits, each⟩
    exact ⟨fits, properties, ofRecord, by simpa [ofRecord] using each⟩
  · rintro ⟨fits, properties, ofRecord, each⟩
    exact ⟨⟨properties, ofRecord⟩, fits, by simpa [ofRecord] using each⟩

theorem expandsFrom_of_union {union : UnionType} (found : graph.get? id = some (.union union)) :
    graph.ExpandsFrom opened .attribute id ↔ graph.ExpandsFrom opened .expression id := by
  rw [expandsFrom_iff, expandsFrom_iff]
  simp only [IsAdmissible, contextBelow, found]

theorem expandsFrom_of_literal? {literal : Literal} (isLiteral : graph.literal? id = some literal)
    (shallow : opened.length ≤ maxChainDepth) : graph.ExpandsFrom opened .expression id := by
  rcases Option.bind_eq_some_iff.mp isLiteral with ⟨node, found, ofNode⟩
  have leaf : graph.children id = [] ∧ graph.isPlainRecord id = false ∧
      graph.IsAdmissible .expression id := by
    cases node <;> simp_all [TypeNode.literal?, children, isPlainRecord, IsAdmissible]
  exact (expandsFrom_leaf_iff leaf.1 leaf.2.1).mpr ⟨leaf.2.2, shallow⟩

theorem children_of_literal? {literal : Literal} (isLiteral : graph.literal? id = some literal) :
    graph.children id = [] := by
  rcases Option.bind_eq_some_iff.mp isLiteral with ⟨node, found, ofNode⟩
  cases node <;> simp_all [TypeNode.literal?, children]

theorem AreLiterals.exists_literal {variants : List TypeId} {values : List Literal}
    (literals : graph.AreLiterals variants values) {variant : TypeId}
    (member : variant ∈ variants) :
    ∃ literal, graph.literal? variant = some literal := by
  have mapped := List.mem_map_of_mem (f := graph.literal?) member
  rw [literals] at mapped
  rcases List.mem_map.mp mapped with ⟨literal, _, equal⟩
  exact ⟨literal, equal.symm⟩

theorem expandsFrom_of_literals {union : UnionType} {values : List Literal}
    (found : graph.get? id = some (.union union)) (nonempty : union.variants ≠ [])
    (literals : graph.AreLiterals union.variants values)
    (shallow : opened.length ≤ maxChainDepth) : graph.ExpandsFrom opened .attribute id := by
  have notPlain : graph.isPlainRecord id = false := by
    simp [isPlainRecord, found]
  rw [expandsFrom_iff, fits_singleton_of_notPlain notPlain, openedBelow, notPlain]
  simp only [IsAdmissible, contextBelow, children, found]
  refine ⟨nonempty, shallow, fun variant member => ?_⟩
  rcases literals.exists_literal member with ⟨literal, isLiteral⟩
  exact expandsFrom_of_literal? isLiteral shallow

end Graph

/-! ## The walk -/

namespace AttributeType

variable {graph : Graph} {depth : Nat} {opened : List TypeId} {id element : TypeId}
  {type : AttributeType}

theorem walk_of_element? (hasElement : graph.element? id = some element) :
    walk graph (depth + 1) opened id = ofElement graph (walk graph depth opened) element := by
  unfold Graph.element? at hasElement
  split at hasElement
  · next found =>
      cases hasElement
      simp [walk, Graph.fromGraph_get_of_get? found]
  · next found => simp [walk, Graph.fromGraph_get_of_get? found, hasElement]
  · cases hasElement

/-- An array has an attribute type if it is an array of an enum with members, or its elements
have one. -/
theorem ofElement_eq_ok_iff {walkElement : TypeId → Except MappingError AttributeType} :
    ofElement graph walkElement element = .ok type ↔
      (∃ enum, graph.get? element = some (.enum enum) ∧ enum.members ≠ [] ∧
        .set (enum.values.map Literal.plainText) = type) ∨
      ((∀ enum, graph.get? element ≠ some (.enum enum)) ∧ graph.get? element ≠ none ∧
        ∃ items, walkElement element = .ok items ∧ .list items = type) := by
  cases found : graph.get? element with
  | none => simp [ofElement, Graph.get, found, fromGraph]
  | some node =>
      rw [ofElement, Graph.fromGraph_get_of_get? found, ok_bind]
      cases node with
      | enum enum => simp [Graph.someValues_eq_ok_iff, and_assoc]
      | _ => simp

/-- A plain record becomes a map of what its properties become below it. -/
theorem walk_plainRecord_eq_ok_iff {record : RecordType}
    (found : graph.get? id = some (.record record)) (shape : record.arrayElement? = none) :
    walk graph (depth + 1) opened id = .ok type ↔
      ∃ (below : List TypeId) (properties : List Property) (types : Property → AttributeType),
        openRecord opened id record.name = .ok below ∧
        graph.recordProperties record = .ok properties ∧
        (∀ property ∈ properties, walk graph depth below property.type = .ok (types property)) ∧
        .map (properties.map fun property => (property.name, types property)) = type := by
  have nonempty : Nonempty AttributeType := ⟨.string⟩
  simp only [walk, Graph.fromGraph_get_of_get? found, ok_bind, shape, bind_eq_ok_iff,
    fromGraph_eq_ok_iff]
  constructor
  · rintro ⟨below, opens, properties, ofRecord, entries, walked, equal⟩
    rcases mapM_named_eq_ok_iff.mp walked with ⟨types, rfl, walks⟩
    exact ⟨below, properties, types, opens, ofRecord, walks, Except.ok.inj equal⟩
  · rintro ⟨below, properties, types, opens, ofRecord, walks, rfl⟩
    exact ⟨below, opens, properties, ofRecord, _, mapM_named_eq_ok_iff.mpr ⟨types, rfl, walks⟩, rfl⟩

/-- A union becomes a choice of its literals, or a custom type if it has other variants. -/
theorem walk_union_eq_ok_iff {union : UnionType} (found : graph.get? id = some (.union union)) :
    walk graph (depth + 1) opened id = .ok type ↔
      (∃ values, union.variants ≠ [] ∧ graph.AreLiterals union.variants values ∧
        .choice values = type) ∨
      (graph.unionLiterals union = .ok none ∧
        ∃ written, TypeExpression.walk graph depth opened id = .ok written ∧
          .custom (String.ofList written) = type) := by
  simp only [walk, Graph.fromGraph_get_of_get? found, ok_bind, bind_eq_ok_iff,
    fromGraph_eq_ok_iff]
  constructor
  · rintro ⟨literals, ofUnion, accepted⟩
    cases literals with
    | some values =>
        rcases Graph.unionLiterals_eq_some_iff.mp ofUnion with ⟨nonempty, literals⟩
        exact .inl ⟨values, nonempty, literals, Except.ok.inj accepted⟩
    | none =>
        rcases bind_eq_ok_iff.mp accepted with ⟨written, walked, equal⟩
        exact .inr ⟨ofUnion, written, walked, Except.ok.inj equal⟩
  · rintro (⟨values, nonempty, literals, rfl⟩ | ⟨ofUnion, written, walked, rfl⟩)
    · exact ⟨some values, Graph.unionLiterals_eq_some_iff.mpr ⟨nonempty, literals⟩, rfl⟩
    · exact ⟨none, ofUnion, bind_eq_ok_iff.mpr ⟨written, walked, rfl⟩⟩

/-! ## One step -/

/-- What one step of the walk makes of a type, given what is found for the types below it and what
is written for the type itself. -/
inductive IsStep (graph : Graph) (finds : TypeId → AttributeType → Prop)
    (writes : List Char → Prop) (id : TypeId) : AttributeType → Prop
  | scalar {scalar : ScalarType} {kind : ScalarKind} :
      graph.get? id = some (.scalar scalar) → graph.scalarKind id = .ok kind →
      IsStep graph finds writes id (.ofScalarKind kind)
  | set {element : TypeId} {enum : EnumType} :
      graph.element? id = some element → graph.get? element = some (.enum enum) →
      enum.members ≠ [] → IsStep graph finds writes id (.set (enum.values.map Literal.plainText))
  | list {element : TypeId} {items : AttributeType} :
      graph.element? id = some element → (∀ enum, graph.get? element ≠ some (.enum enum)) →
      graph.get? element ≠ none → finds element items →
      IsStep graph finds writes id (.list items)
  | map {record : RecordType} {properties : List Property} {types : Property → AttributeType} :
      graph.get? id = some (.record record) → record.arrayElement? = none →
      graph.recordProperties record = .ok properties →
      (∀ property ∈ properties, finds property.type (types property)) →
      IsStep graph finds writes id
        (.map (properties.map fun property => (property.name, types property)))
  | enum {enum : EnumType} :
      graph.get? id = some (.enum enum) → enum.members ≠ [] →
      IsStep graph finds writes id (.choice enum.values)
  | literals {union : UnionType} {values : List Literal} :
      graph.get? id = some (.union union) → union.variants ≠ [] →
      graph.AreLiterals union.variants values → IsStep graph finds writes id (.choice values)
  | custom {union : UnionType} {written : List Char} :
      graph.get? id = some (.union union) → graph.unionLiterals union = .ok none →
      writes written → IsStep graph finds writes id (.custom (String.ofList written))

section Steps

variable {finds others : TypeId → AttributeType → Prop} {writes rewrites : List Char → Prop}

theorem IsStep.imp (step : IsStep graph finds writes id type)
    (below : ∀ child ∈ graph.children id, ∀ found, finds child found → others child found)
    (written : ∀ text, writes text → rewrites text) : IsStep graph others rewrites id type := by
  cases step with
  | scalar found ofScalar => exact .scalar found ofScalar
  | set hasElement found members => exact .set hasElement found members
  | list hasElement notEnum inRange ofElement =>
      have child := Graph.mem_children_of_element? hasElement
      exact .list hasElement notEnum inRange (below _ child _ ofElement)
  | map found shape ofRecord each =>
      refine .map found shape ofRecord fun property member => ?_
      have child := Graph.mem_children_of_property found shape ofRecord member
      exact below property.type child _ (each property member)
  | enum found members => exact .enum found members
  | literals found nonempty literals => exact .literals found nonempty literals
  | custom found ofUnion text => exact .custom found ofUnion (written _ text)

theorem exists_isStep_of_element? (hasElement : graph.element? id = some element)
    (expands : graph.ExpandsFrom opened .attribute element) (below : ∃ items, finds element items) :
    ∃ type, IsStep graph finds writes id type := by
  have inRange : graph.get? element ≠ none := by
    intro missing
    simpa [Graph.IsAdmissible, missing] using expands.admissible _ _ .start
  by_cases isEnum : ∃ enum, graph.get? element = some (.enum enum)
  · rcases isEnum with ⟨enum, found⟩
    exact ⟨_, .set hasElement found ((Graph.expandsFrom_of_enum found).mp expands).1⟩
  · rcases below with ⟨items, found⟩
    exact ⟨_, .list hasElement (not_exists.mp isEnum) inRange found⟩

theorem exists_isStep_of_union {union : UnionType} (found : graph.get? id = some (.union union))
    (expands : graph.ExpandsFrom opened .attribute id) (written : ∃ text, writes text) :
    ∃ type, IsStep graph finds writes id type := by
  have inRange : ∀ variant ∈ union.variants, graph.get? variant ≠ none := by
    intro variant member missing
    have child : graph.Expands id variant := by
      simpa [Graph.Expands, Graph.children, found] using member
    simpa [Graph.IsAdmissible, missing] using
      expands.admissible _ _ (Graph.Visits.start.step child)
  rcases Graph.succeeds_unionLiterals inRange with ⟨literals, ofUnion⟩
  cases literals with
  | some values =>
      rcases Graph.unionLiterals_eq_some_iff.mp ofUnion with ⟨nonempty, literals⟩
      exact ⟨_, .literals found nonempty literals⟩
  | none =>
      rcases written with ⟨text, writes⟩
      exact ⟨_, .custom found ofUnion writes⟩

/-- A type that expands can be stepped from, provided that something is found for the types below
it or, if it is a union, written for the union. -/
theorem exists_isStep (expands : graph.ExpandsFrom opened .attribute id)
    (below : ∀ child ∈ graph.children id,
      graph.ExpandsFrom (graph.openedBelow opened id) .attribute child → ∃ found, finds child found)
    (written : graph.ExpandsFrom opened .expression id → ∃ text, writes text) :
    ∃ type, IsStep graph finds writes id type := by
  have admissible := expands.admissible _ _ .start
  cases hasElement : graph.element? id with
  | some element =>
      have ofElement := (Graph.expandsFrom_of_element? hasElement).mp expands
      apply exists_isStep_of_element? hasElement ofElement
      apply below element (Graph.mem_children_of_element? hasElement)
      rwa [Graph.openedBelow_of_element? opened hasElement]
  | none =>
      cases found : graph.get? id with
      | none => simp [Graph.IsAdmissible, found] at admissible
      | some node =>
          cases node with
          | array element => simp [Graph.element?, found] at hasElement
          | record record =>
              have shape : record.arrayElement? = none := by
                simpa [Graph.element?, found] using hasElement
              rcases (Graph.expandsFrom_of_plainRecord found shape).mp expands with
                ⟨_, properties, ofRecord, expandsBelow⟩
              have nonempty : Nonempty AttributeType := ⟨.string⟩
              have each : ∀ property ∈ properties, ∃ type, finds property.type type := by
                intro property member
                have child := Graph.mem_children_of_property found shape ofRecord member
                exact below property.type child (expandsBelow property member)
              choose! types finds using each
              exact ⟨_, .map found shape ofRecord finds⟩
          | union union =>
              apply exists_isStep_of_union found expands
              exact written ((Graph.expandsFrom_of_union found).mp expands)
          | scalar scalar =>
              rcases ((Graph.expandsFrom_of_scalar found).mp expands).1 with ⟨kind, ofScalar⟩
              exact ⟨_, .scalar found ofScalar⟩
          | enum enum => exact ⟨_, .enum found ((Graph.expandsFrom_of_enum found).mp expands).1⟩
          | _ => simp [Graph.IsAdmissible, found] at admissible

end Steps

theorem isStep_of_walk (shallow : opened.length ≤ Graph.maxChainDepth)
    (accepted : walk graph (depth + 1) opened id = .ok type) :
    graph.Fits opened [id] ∧
      IsStep graph (walk graph depth (graph.openedBelow opened id) · = .ok ·)
        (TypeExpression.walk graph depth opened id = .ok ·) id type := by
  have fits (notPlain : graph.isPlainRecord id = false) : graph.Fits opened [id] :=
    (Graph.fits_singleton_of_notPlain notPlain).mpr shallow
  cases hasElement : graph.element? id with
  | some element =>
      rw [walk_of_element? hasElement] at accepted
      refine ⟨fits (Graph.shape_of_element? .attribute hasElement).2.1, ?_⟩
      rcases ofElement_eq_ok_iff.mp accepted with
        ⟨enum, found, members, rfl⟩ | ⟨notEnum, inRange, items, walked, rfl⟩
      · exact .set hasElement found members
      · rw [← Graph.openedBelow_of_element? opened hasElement] at walked
        exact .list hasElement notEnum inRange walked
  | none =>
      cases found : graph.get? id with
      | none => simp [walk, Graph.get, found, fromGraph] at accepted
      | some node =>
          cases node with
          | array element => simp [Graph.element?, found] at hasElement
          | record record =>
              have shape : record.arrayElement? = none := by
                simpa [Graph.element?, found] using hasElement
              have plain : graph.isPlainRecord id = true := by
                simp [Graph.isPlainRecord, found, shape]
              rcases (walk_plainRecord_eq_ok_iff found shape).mp accepted with
                ⟨_, properties, types, opens, ofRecord, walks, rfl⟩
              rcases (Graph.openRecord_eq_ok_iff plain shallow).mp opens with ⟨fitsHere, rfl⟩
              exact ⟨fitsHere, .map found shape ofRecord walks⟩
          | union union =>
              refine ⟨fits (by simp [Graph.isPlainRecord, found]), ?_⟩
              rcases (walk_union_eq_ok_iff found).mp accepted with
                ⟨values, nonempty, literals, rfl⟩ | ⟨ofUnion, written, walked, rfl⟩
              · exact .literals found nonempty literals
              · exact .custom found ofUnion walked
          | scalar scalar =>
              simp only [walk, Graph.fromGraph_get_of_get? found, ok_bind, bind_pure_comp,
                map_eq_ok_iff] at accepted
              rcases accepted with ⟨kind, ofScalar, rfl⟩
              exact ⟨fits (by simp [Graph.isPlainRecord, found]), .scalar found ofScalar⟩
          | enum enum =>
              simp only [walk, Graph.fromGraph_get_of_get? found, ok_bind, bind_pure_comp,
                map_eq_ok_iff, Graph.someValues_eq_ok_iff] at accepted
              rcases accepted with ⟨_, ⟨members, rfl⟩, rfl⟩
              exact ⟨fits (by simp [Graph.isPlainRecord, found]), .enum found members⟩
          | _ => simp [walk, Graph.fromGraph_get_of_get? found] at accepted

theorem walk_of_isStep (fits : graph.Fits opened [id])
    (step : IsStep graph (walk graph depth (graph.openedBelow opened id) · = .ok ·)
      (TypeExpression.walk graph depth opened id = .ok ·) id type) :
    walk graph (depth + 1) opened id = .ok type := by
  cases step with
  | scalar found ofScalar => simp [walk, Graph.fromGraph_get_of_get? found, ofScalar]
  | set hasElement found members =>
      rw [walk_of_element? hasElement]
      exact ofElement_eq_ok_iff.mpr (.inl ⟨_, found, members, rfl⟩)
  | list hasElement notEnum inRange walked =>
      rw [Graph.openedBelow_of_element? opened hasElement] at walked
      rw [walk_of_element? hasElement]
      exact ofElement_eq_ok_iff.mpr (.inr ⟨notEnum, inRange, _, walked, rfl⟩)
  | @map record properties types found shape ofRecord walks =>
      have plain : graph.isPlainRecord id = true := by
        simp [Graph.isPlainRecord, found, shape]
      have opens : openRecord opened id record.name = .ok (graph.openedBelow opened id) :=
        (Graph.openRecord_eq_ok_iff plain fits.opened_length_le).mpr ⟨fits, rfl⟩
      exact (walk_plainRecord_eq_ok_iff found shape).mpr
        ⟨_, properties, types, opens, ofRecord, walks, rfl⟩
  | enum found members =>
      simp [walk, Graph.fromGraph_get_of_get? found, Graph.someValues_eq_ok_iff, members]
  | literals found nonempty literals =>
      exact (walk_union_eq_ok_iff found).mpr (.inl ⟨_, nonempty, literals, rfl⟩)
  | custom found ofUnion walked =>
      exact (walk_union_eq_ok_iff found).mpr (.inr ⟨ofUnion, _, walked, rfl⟩)

/-! ## The whole walk -/

theorem walk_sound (shallow : opened.length ≤ Graph.maxChainDepth)
    (accepted : walk graph depth opened id = .ok type) :
    graph.ExpandsFrom opened .attribute id ∧ graph.Translates id type := by
  induction depth generalizing opened id type with
  | zero => cases accepted
  | succ depth induction =>
      rcases isStep_of_walk shallow accepted with ⟨fits, step⟩
      have shallowBelow := TypeExpression.shallow_openedBelow fits
      cases step with
      | scalar found ofScalar =>
          exact ⟨(Graph.expandsFrom_of_scalar found).mpr ⟨⟨_, ofScalar⟩, shallow⟩,
            .scalar found ofScalar⟩
      | set hasElement found members =>
          rw [Graph.expandsFrom_of_element? hasElement]
          exact ⟨(Graph.expandsFrom_of_enum found).mpr ⟨members, shallow⟩, .set hasElement found⟩
      | list hasElement notEnum _ walked =>
          rcases induction shallowBelow walked with ⟨expands, translates⟩
          rw [Graph.openedBelow_of_element? opened hasElement] at expands
          rw [Graph.expandsFrom_of_element? hasElement]
          exact ⟨expands, .list hasElement notEnum translates⟩
      | map found shape ofRecord walks =>
          have below := fun property member => induction shallowBelow (walks property member)
          rw [Graph.expandsFrom_of_plainRecord found shape]
          exact ⟨⟨fits, _, ofRecord, fun property member => (below property member).1⟩,
            .map found shape ofRecord fun property member => (below property member).2⟩
      | enum found members =>
          exact ⟨(Graph.expandsFrom_of_enum found).mpr ⟨members, shallow⟩, .enum found⟩
      | literals found nonempty literals =>
          exact ⟨Graph.expandsFrom_of_literals found nonempty literals shallow,
            .literals found nonempty literals⟩
      | @custom union written found ofUnion walked =>
          have expands := TypeExpression.expandsFrom_of_succeeds_walk shallow ⟨written, walked⟩
          have nonempty : union.variants ≠ [] := by
            simpa [Graph.IsAdmissible, found] using expands.admissible _ _ .start
          have noLiterals : ∀ values, ¬graph.AreLiterals union.variants values := by
            intro values literals
            have some := Graph.unionLiterals_eq_some_iff.mpr ⟨nonempty, literals⟩
            simp [ofUnion] at some
          exact ⟨(Graph.expandsFrom_of_union found).mpr expands,
            .custom found noLiterals (Graph.typeExpression_of_walk shallow walked)⟩

/-- What every step hands on from the parts of a type to the type holds of every attribute type that
the walk gives. -/
@[elab_as_elim]
theorem walk_induction {motive : AttributeType → Prop}
    (step : ∀ id type, IsStep graph (fun _ found => motive found)
      (fun written => graph.typeExpression id = .ok (String.ofList written)) id type → motive type)
    (shallow : opened.length ≤ Graph.maxChainDepth)
    (accepted : walk graph depth opened id = .ok type) : motive type := by
  induction depth generalizing opened id type with
  | zero => cases accepted
  | succ depth induction =>
      rcases isStep_of_walk shallow accepted with ⟨fits, stepped⟩
      apply step id type
      apply stepped.imp
      · intro child _ found walked
        exact induction (TypeExpression.shallow_openedBelow fits) walked
      · intro written walked
        exact Graph.typeExpression_of_walk shallow walked

theorem succeeds_walk_of_expandsFrom (guarded : graph.IsGuarded)
    (expands : graph.ExpandsFrom opened .attribute id) (enough : graph.room opened id + 1 < depth) :
    Succeeds (walk graph depth opened id) := by
  induction depth generalizing opened id with
  | zero => omega
  | succ depth induction =>
      have fits := expands.fits [] (List.isChain_singleton id)
      have below : ∀ child ∈ graph.children id,
          graph.ExpandsFrom (graph.openedBelow opened id) .attribute child →
            Succeeds (walk graph depth (graph.openedBelow opened id) child) := by
        intro child below expandsChild
        have lower := guarded.room_lt fits below
        exact induction expandsChild (by omega)
      have written : graph.ExpandsFrom opened .expression id →
          Succeeds (TypeExpression.walk graph depth opened id) := by
        intro expandsAlone
        exact TypeExpression.succeeds_walk_of_expandsFrom guarded expandsAlone (by omega)
      rcases exists_isStep expands below written with ⟨type, step⟩
      exact ⟨type, walk_of_isStep fits step⟩

end AttributeType

namespace Graph

variable {graph : Graph}

/-- In a graph whose cycles all pass plain records, exactly the types that expand have an attribute
type, and it is their translation. -/
theorem attributeType_eq_ok_iff_translates (guarded : graph.IsGuarded) (id : TypeId) :
    (∀ type, graph.attributeType id = .ok type ↔
      graph.IsExpandable id ∧ graph.Translates id type) ∧
    ((∃ type, graph.attributeType id = .ok type) ↔ graph.IsExpandable id) := by
  have sound : ∀ type, graph.attributeType id = .ok type →
      graph.IsExpandable id ∧ graph.Translates id type := by
    intro type accepted
    rcases AttributeType.walk_sound (Nat.zero_le _) accepted with ⟨expands, translates⟩
    exact ⟨isExpandable_iff.mpr expands, translates⟩
  have complete : graph.IsExpandable id → ∃ type, graph.attributeType id = .ok type := by
    intro expandable
    have room : graph.room [] id + 2 ≤ graph.walkDepth := room_add_two_le_walkDepth []
    exact AttributeType.succeeds_walk_of_expandsFrom guarded (isExpandable_iff.mp expandable)
      (by omega)
  refine ⟨fun type => ⟨sound type, ?_⟩, ?_, complete⟩
  · rintro ⟨expandable, translates⟩
    rcases complete expandable with ⟨other, accepted⟩
    rw [translates.unique (sound other accepted).2, accepted]
  · rintro ⟨type, accepted⟩
    exact (sound type accepted).1

/-- A line has two points of the same type. A tree contains itself, inside an array. -/
def sharingGraph : Graph :=
  { types := #[.scalar { name := "string" },
      .record { name := "Point", properties := [{ name := "x", type := ⟨0⟩ }] },
      .record { name := "Line", properties := [{ name := "from", type := ⟨1⟩ },
        { name := "to", type := ⟨1⟩ }] },
      .array ⟨4⟩,
      .record { name := "Tree", properties := [{ name := "children", type := ⟨3⟩ }] }] }

theorem isExpandable_sharingGraph_line :
    sharingGraph.IsExpandable ⟨2⟩ ∧ ¬sharingGraph.IsExpandable ⟨4⟩ ∧
      sharingGraph.Translates ⟨2⟩
        (.map [("from", .map [("x", .string)]), ("to", .map [("x", .string)])]) := by
  have guarded : sharingGraph.IsGuarded :=
    isGuarded_of_decreasing (fun id => if id = ⟨3⟩ then 1 else 0) (by decide)
  have line := ((attributeType_eq_ok_iff_translates guarded ⟨2⟩).1 _).mp rfl
  refine ⟨line.1, ?_, line.2⟩
  rw [← (attributeType_eq_ok_iff_translates guarded ⟨4⟩).2]
  exact nofun

/-- A record that stands for an array, although its base is missing. -/
def baselessArray : RecordType := { name := "Array", base := some ⟨99⟩, indexer := some ⟨0⟩ }

def baselessArrayGraph : Graph :=
  { types := #[.scalar { name := "string" }, .record baselessArray] }

/-- The properties of a record that stands for an array are not looked at, so it has an attribute
type even if they cannot be found. -/
theorem attributeType_baselessArray :
    baselessArrayGraph.IsGuarded ∧
      baselessArrayGraph.Visits .attribute ⟨1⟩ .attribute ⟨1⟩ ∧
      baselessArrayGraph.get? ⟨1⟩ = some (.record baselessArray) ∧
      ¬Succeeds (baselessArrayGraph.recordProperties baselessArray) ∧
      baselessArrayGraph.attributeType ⟨1⟩ = .ok (.list .string) :=
  ⟨isGuarded_of_decreasing (fun id => id.index.toNat) (by decide), .start, rfl,
    not_succeeds_error _, rfl⟩

/-- A union of literals becomes the choice of their values. Its variants are visited as those of any
other union are, inside of which literals may stand, although they have no attribute types. -/
theorem attributeType_of_literals {id : TypeId} {union : UnionType} {values : List Literal}
    (found : graph.get? id = some (.union union)) (nonempty : union.variants ≠ [])
    (literals : graph.AreLiterals union.variants values) :
    graph.attributeType id = .ok (.choice values) ∧
      ∀ variant ∈ union.variants, graph.Visits .attribute id .expression variant ∧
        graph.IsAdmissible .expression variant ∧ ¬graph.IsAdmissible .attribute variant := by
  constructor
  · have expands : graph.ExpandsFrom [] .attribute id :=
      expandsFrom_of_literals found nonempty literals (Nat.zero_le _)
    have fits := expands.fits [] (List.isChain_singleton id)
    have deep : graph.walkDepth ≠ 0 := by
      simp [walkDepth]
    rcases Nat.exists_eq_add_one_of_ne_zero deep with ⟨depth, isDepth⟩
    rw [attributeType, isDepth]
    exact AttributeType.walk_of_isStep fits (.literals found nonempty literals)
  · intro variant member
    rcases literals.exists_literal member with ⟨literal, isLiteral⟩
    rcases Option.bind_eq_some_iff.mp isLiteral with ⟨node, foundVariant, ofNode⟩
    have child : graph.Expands id variant := by
      simpa [Expands, children, found] using member
    have visits := (Visits.start : graph.Visits .attribute id .attribute id).step child
    have inside : graph.contextBelow .attribute id = .expression := by
      simp [contextBelow, found]
    rw [inside] at visits
    refine ⟨visits, ?_⟩
    cases node <;> simp_all [TypeNode.literal?, IsAdmissible]

example :
    Graph.attributeType { types := #[.stringLiteral "on", .numericLiteral (.int 0),
      .union { variants := [⟨0⟩, ⟨1⟩] }] } ⟨2⟩ = .ok (.choice [.text "on", .number (.int 0)]) :=
  rfl

end Graph

end EntitySchema
