import Mathlib
import EntitySchema.Proofs.AttributeType
import EntitySchema.Proofs.Inheritance
/-!
How deep the walk for an attribute type has to go.

As for expressions, a walk that succeeds takes no more steps than there is room for, and one more if
it ends in a union that is written as an expression. The depth that a graph allows always leaves
this room.
-/

namespace EntitySchema

namespace AttributeType

variable {graph : Graph} {depth : Nat} {opened : List TypeId} {id : TypeId} {type : AttributeType}

/-- The type unfolds, and a walk gives its attribute type if there is room for it. -/
structure IsWalked (graph : Graph) (opened : List TypeId) (id : TypeId) (type : AttributeType) :
    Prop where
  unfolds : graph.Unfolds id
  walk : ∀ depth, graph.room opened id + 1 < depth → walk graph depth opened id = .ok type

theorem IsStep.unfolds {finds : TypeId → AttributeType → Prop} {writes : List Char → Prop}
    (step : IsStep graph finds writes id type)
    (below : ∀ child found, finds child found → graph.Unfolds child)
    (written : ∀ text, writes text → graph.Unfolds id) : graph.Unfolds id := by
  have ofElement {element : TypeId} (hasElement : graph.element? id = some element)
      (unfolds : graph.Unfolds element) : graph.Unfolds id := by
    apply Graph.unfolds_of_children
    simp [(Graph.shape_of_element? .attribute hasElement).1, unfolds]
  cases step with
  | scalar found _ => exact Graph.unfolds_of_leaf (by simp [Graph.children, found])
  | set hasElement found _ =>
      exact ofElement hasElement (Graph.unfolds_of_leaf (by simp [Graph.children, found]))
  | list hasElement _ _ items => exact ofElement hasElement (below _ _ items)
  | map found shape _ _ =>
      exact Graph.unfolds_of_isPlainRecord (by simp [Graph.isPlainRecord, found, shape])
  | enum found _ => exact Graph.unfolds_of_leaf (by simp [Graph.children, found])
  | @literals union _ found _ literals =>
      apply Graph.unfolds_of_children
      intro _ variant child
      have member : variant ∈ union.variants := by
        simpa [Graph.children, found] using child
      rcases literals.exists_literal member with ⟨literal, isLiteral⟩
      exact Graph.unfolds_of_leaf (Graph.children_of_literal? isLiteral)
  | custom _ _ text => exact written _ text

theorem isWalked_of_walk (shallow : opened.length ≤ Graph.maxChainDepth)
    (accepted : walk graph depth opened id = .ok type) : IsWalked graph opened id type := by
  induction depth generalizing opened id type with
  | zero => cases accepted
  | succ depth induction =>
      rcases isStep_of_walk shallow accepted with ⟨fits, step⟩
      have below : ∀ child found, walk graph depth (graph.openedBelow opened id) child = .ok found →
          IsWalked graph (graph.openedBelow opened id) child found :=
        fun child found => induction (TypeExpression.shallow_openedBelow fits)
      have unfolds : graph.Unfolds id := by
        apply step.unfolds
        · intro child found walked
          exact (below child found walked).unfolds
        · intro written walked
          exact TypeExpression.unfolds_of_succeeds_walk shallow ⟨written, walked⟩
      refine ⟨unfolds, fun other enough => ?_⟩
      cases other with
      | zero => omega
      | succ other =>
          apply walk_of_isStep fits
          apply step.imp
          · intro child expands found walked
            have lower := unfolds.room_lt fits expands
            exact (below child found walked).walk other (by omega)
          · intro written walked
            -- The expression of a union is one step less deep than its attribute type, whence the
            -- one step on top of the room.
            exact TypeExpression.walk_of_room_lt shallow walked (Nat.lt_of_succ_lt_succ enough)

end AttributeType

/-- Whatever a walk finds at some depth is the attribute type of the type. -/
theorem Graph.attributeType_of_walk {graph : Graph} {depth : Nat} {id : TypeId}
    {type : AttributeType} (accepted : AttributeType.walk graph depth [] id = .ok type) :
    graph.attributeType id = .ok type := by
  have room : graph.room [] id + 2 ≤ graph.walkDepth := room_add_two_le_walkDepth []
  exact (AttributeType.isWalked_of_walk (Nat.zero_le _) accepted).walk _ (by omega)

/-- What holds of the attribute types of scalars, enums and unions, and is handed on from the parts
of a type to the type, holds of every attribute type of the graph. -/
@[elab_as_elim]
theorem Graph.attributeType_induction {graph : Graph} {id : TypeId} {type : AttributeType}
    {motive : AttributeType → Prop}
    (scalar : ∀ kind, motive (.ofScalarKind kind))
    (set : ∀ values : List Literal, values ≠ [] → motive (.set (values.map Literal.plainText)))
    (list : ∀ items, motive items → motive (.list items))
    (map : ∀ (properties : List Property) (types : Property → AttributeType),
      (properties.map Property.name).Nodup → (∀ property ∈ properties, motive (types property)) →
      motive (.map (properties.map fun property => (property.name, types property))))
    (choice : ∀ values : List Literal, values ≠ [] → motive (.choice values))
    (custom : ∀ id union expression, graph.get? id = some (.union union) →
      graph.typeExpression id = .ok expression → motive (.custom expression))
    (mapped : graph.attributeType id = .ok type) : motive type := by
  have someValues (enum : EnumType) (members : enum.members ≠ []) : enum.values ≠ [] := by
    simpa [EnumType.values] using members
  refine AttributeType.walk_induction ?_ (Nat.zero_le _) mapped
  intro id type step
  cases step with
  | scalar => exact scalar _
  | set _ _ members => exact set _ (someValues _ members)
  | list _ _ _ items => exact list _ items
  | map _ _ ofRecord each => exact map _ _ (nodup_names_of_recordProperties ofRecord) each
  | enum _ members => exact choice _ (someValues _ members)
  | literals _ nonempty literals =>
      refine choice _ ?_
      rintro rfl
      exact nonempty (List.map_eq_nil_iff.mp literals)
  | custom found _ written => exact custom _ _ _ found written

end EntitySchema
