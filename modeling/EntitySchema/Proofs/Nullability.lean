import Mathlib
import EntitySchema.Proofs.Renaming.Compilation
/-!
Types that may also be null.

A type with an attribute type can be written as an expression as well, although the two walks stop
at different types: arrays of enums and unions of literals are not followed for an attribute type.
So each such type can be made nullable, by a union with null, which becomes a custom type.
-/

namespace EntitySchema

/-! ## Expressions of types that have an attribute type -/

namespace TypeExpression

variable {graph : Graph} {depth : Nat} {opened : List TypeId} {id : TypeId} {type : AttributeType}

/-- A type is written if the types below it are. -/
theorem succeeds_walk_of_children (fits : graph.Fits opened [id])
    (admissible : graph.IsAdmissible .expression id)
    (each : ∀ child ∈ graph.children id,
      Succeeds (walk graph graph.walkDepth (graph.openedBelow opened id) child)) :
    Succeeds (walk graph graph.walkDepth opened id) := by
  have shallow := fits.opened_length_le
  exact succeeds_walk_walkDepth shallow
    ((succeeds_walk_succ_iff shallow).mpr ⟨admissible, fits, each⟩)

/-- A type without types below it is written if it expands at all. -/
theorem succeeds_walk_of_leaf (expands : graph.ExpandsFrom opened .expression id)
    (leaf : graph.children id = []) : Succeeds (walk graph graph.walkDepth opened id) := by
  apply succeeds_walk_of_children (expands.fits [] (List.isChain_singleton id))
    (expands.admissible _ _ .start)
  simp [leaf]

theorem succeeds_walk_of_enum {enum : EnumType} (shallow : opened.length ≤ Graph.maxChainDepth)
    (found : graph.get? id = some (.enum enum)) (members : enum.members ≠ []) :
    Succeeds (walk graph graph.walkDepth opened id) := by
  apply succeeds_walk_of_leaf ((Graph.expandsFrom_of_enum found).mpr ⟨members, shallow⟩)
  simp [Graph.children, found]

/-- A type with an attribute type can be written, also inside records that are open. -/
theorem succeeds_walk_of_attributeType (shallow : opened.length ≤ Graph.maxChainDepth)
    (accepted : AttributeType.walk graph depth opened id = .ok type) :
    Succeeds (walk graph graph.walkDepth opened id) := by
  induction depth generalizing opened id type with
  | zero => cases accepted
  | succ depth induction =>
      rcases AttributeType.isStep_of_walk shallow accepted with ⟨fits, step⟩
      have shallowBelow := shallow_openedBelow fits
      have ofElement {element : TypeId} (hasElement : graph.element? id = some element)
          (succeeds : Succeeds (walk graph graph.walkDepth (graph.openedBelow opened id) element)) :
          Succeeds (walk graph graph.walkDepth opened id) := by
        rcases Graph.shape_of_element? .expression hasElement with ⟨below, _, _, admissible⟩
        apply succeeds_walk_of_children fits admissible
        simpa [below] using succeeds
      cases step with
      | scalar found ofScalar =>
          apply succeeds_walk_of_leaf
            ((Graph.expandsFrom_of_scalar found).mpr ⟨⟨_, ofScalar⟩, shallow⟩)
          simp [Graph.children, found]
      | set hasElement found members =>
          exact ofElement hasElement (succeeds_walk_of_enum shallowBelow found members)
      | list hasElement _ _ walked => exact ofElement hasElement (induction shallowBelow walked)
      | map found shape ofRecord walks =>
          apply succeeds_walk_of_children fits
          · simp [Graph.IsAdmissible, found, shape, ofRecord]
          · simp only [Graph.children, found, shape, ofRecord, List.forall_mem_map]
            intro property member
            exact induction shallowBelow (walks property member)
      | enum found members => exact succeeds_walk_of_enum shallow found members
      | literals found nonempty literals =>
          apply succeeds_walk_of_children fits
          · simpa [Graph.IsAdmissible, found] using nonempty
          · simp only [Graph.children, found]
            intro variant member
            rcases literals.exists_literal member with ⟨literal, isLiteral⟩
            exact succeeds_walk_of_leaf (Graph.expandsFrom_of_literal? isLiteral shallowBelow)
              (Graph.children_of_literal? isLiteral)
      | @custom _ written _ _ walked => exact succeeds_walk_walkDepth shallow ⟨written, walked⟩

end TypeExpression

namespace Graph

/-! ## Larger graphs -/

def Extends (larger graph : Graph) : Prop :=
  ∀ id node, graph.get? id = some node → larger.get? id = some node

variable {graph larger : Graph} {id null union : TypeId} {name : Option String}

theorem extends_append (graph : Graph) (nodes : Array TypeNode) :
    Extends ⟨graph.types ++ nodes⟩ graph := by
  intro id node found
  rcases Array.getElem?_eq_some_iff.mp found with ⟨inRange, _⟩
  exact (Array.getElem?_append_left inRange).trans found

theorem Extends.embeds (grown : larger.Extends graph) : Embeds (fun id => id) graph larger := by
  refine ⟨Function.injective_id.injOn, fun id node found => ?_⟩
  rw [show node.rename (fun id => id) = node from node.rename_id]
  exact grown id node found

/-- A type is written in a larger graph as it is in the graph. -/
theorem Extends.walk (grown : larger.Extends graph) {depth : Nat} {written : List Char}
    (walked : TypeExpression.walk graph depth [] id = .ok written) :
    TypeExpression.walk larger depth [] id = .ok written :=
  grown.embeds.entails_expression depth [] id (by simp) written walked

/-! ## Unions with null -/

theorem exists_get?_of_walk {depth : Nat} {opened : List TypeId} {written : List Char}
    (walked : TypeExpression.walk graph depth opened id = .ok written) :
    ∃ node, graph.get? id = some node := by
  rw [← Option.ne_none_iff_exists']
  intro missing
  cases depth with
  | zero => cases walked
  | succ depth => simp [TypeExpression.walk, get, missing, fromGraph] at walked

theorem unionLiterals_nullable {node : TypeNode} (found : graph.get? id = some node)
    (isNull : graph.get? null = some .null) :
    graph.unionLiterals { name, variants := [id, null] } = .ok none := by
  have ofNull : graph.literalValues [null] = .ok none := by
    simp [literalValues, get, isNull, TypeNode.literal?]
  rw [unionLiterals, if_neg (by simp), literalValues]
  simp only [get, found, ofNull]
  cases node.literal? <;> rfl

theorem walk_nullable {depth : Nat} {written : List Char}
    (isNull : graph.get? null = some .null)
    (isUnion : graph.get? union = some (.union { name, variants := [id, null] }))
    (walked : TypeExpression.walk graph depth [] id = .ok written) :
    TypeExpression.walk graph (depth + 1) [] union = .ok (written ++ " | null".toList) := by
  have ofNull : TypeExpression.walk graph depth [] null = .ok "null".toList := by
    cases depth with
    | zero => cases walked
    | succ depth =>
        rw [TypeExpression.walk, fromGraph_get_of_get? isNull]
        rfl
  have ofVariants : [id, null].mapM (TypeExpression.walk graph depth []) =
      .ok [written, "null".toList] := by
    rw [mapM_eq_ok_iff]
    exact .cons walked (.cons ofNull .nil)
  simp only [TypeExpression.walk, fromGraph_get_of_get? isUnion, ok_bind]
  rw [if_neg (by simp), ofVariants]
  simp [TypeExpression.ofVariants, List.intercalate]

theorem attributeType_nullable {depth : Nat} {written : List Char}
    (isNull : graph.get? null = some .null)
    (isUnion : graph.get? union = some (.union { name, variants := [id, null] }))
    (walked : TypeExpression.walk graph depth [] id = .ok written) :
    graph.attributeType union = .ok (.custom (String.ofList written ++ " | null")) := by
  rcases exists_get?_of_walk walked with ⟨node, found⟩
  have literals : graph.unionLiterals { name, variants := [id, null] } = .ok none :=
    unionLiterals_nullable found isNull
  have nullable := walk_nullable isNull isUnion walked
  apply attributeType_of_walk
  rw [AttributeType.walk_union_eq_ok_iff isUnion]
  exact .inr ⟨literals, _, nullable, by simp [String.ofList_append]⟩

/-- A type with an attribute type has an expression, and with null it becomes the custom type of
that expression or null. -/
theorem exists_nullable_of_attributeType {type : AttributeType}
    (mapped : graph.attributeType id = .ok type) :
    ∃ expression, graph.typeExpression id = .ok expression ∧
      ∀ (larger : Graph) (null union : TypeId) (name : Option String), larger.Extends graph →
        larger.get? null = some .null →
        larger.get? union = some (.union { name, variants := [id, null] }) →
        larger.attributeType union = .ok (.custom (expression ++ " | null")) := by
  rcases TypeExpression.succeeds_walk_of_attributeType (Nat.zero_le _) mapped with
    ⟨written, walked⟩
  refine ⟨String.ofList written, typeExpression_eq_ok_iff.mpr ⟨written, walked, rfl⟩, ?_⟩
  intro larger null union name grown isNull isUnion
  exact attributeType_nullable isNull isUnion (grown.walk walked)

def levelGraph : Graph :=
  ⟨#[.enum ⟨"Level", [⟨"low", none⟩, ⟨"high", none⟩]⟩, .array ⟨0⟩]⟩

def nullableLevelGraph : Graph :=
  ⟨levelGraph.types ++ #[.null, .union { variants := [⟨1⟩, ⟨2⟩] }]⟩

/-- The array of an enum becomes a set, but an ordinary array of variants once it may be null. -/
theorem exists_nullable_levelGraph :
    levelGraph.attributeType ⟨1⟩ = .ok (.set ["low", "high"]) ∧
      nullableLevelGraph.attributeType ⟨3⟩ =
        .ok (.custom "(\"low\" | \"high\")[] | null") := by
  have mapped : levelGraph.attributeType ⟨1⟩ = .ok (.set ["low", "high"]) := rfl
  have written : levelGraph.typeExpression ⟨1⟩ = .ok "(\"low\" | \"high\")[]" := by
    decide +kernel
  rcases exists_nullable_of_attributeType mapped with ⟨expression, ofLevels, nullable⟩
  rcases Except.ok.inj (written.symm.trans ofLevels) with rfl
  exact ⟨mapped, nullable nullableLevelGraph ⟨2⟩ ⟨3⟩ none (extends_append _ _) rfl rfl⟩

end Graph

end EntitySchema
