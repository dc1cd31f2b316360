import Mathlib
import EntitySchema.Proofs.AttributeType
/-!
What a type is apart from the way it was put together.

The form of a type is the list of its variants. Names of types and the ids under which they are
found do not occur in it, an enum counts as the union of its values, and a union adds its variants
to those of the types around it. So a union inside a union leaves no trace in a form, and neither
does a union of a single variant.
-/

namespace EntitySchema

/-- One of the variants of a type. A number is known by its text only. -/
inductive TypeVariant where
  | scalar (kind : ScalarKind)
  | null
  | unknown
  | text (value : String)
  | numeral (text : String)
  | truth (value : Bool)
  | array (element : List TypeVariant)
  | tuple (items : List (List TypeVariant))
  | object (members : List (String × Bool × List TypeVariant))
  deriving Repr

abbrev TypeForm := List TypeVariant

def TypeVariant.ofLiteral : Literal → TypeVariant
  | .text value => .text value
  | .number value => .numeral value.text

namespace Graph

inductive HasForm (graph : Graph) : TypeId → TypeForm → Prop
  | scalar {id : TypeId} {scalar : ScalarType} {kind : ScalarKind} :
      graph.get? id = some (.scalar scalar) → graph.scalarKind id = .ok kind →
      HasForm graph id [.scalar kind]
  | array {id element : TypeId} {form : TypeForm} :
      graph.element? id = some element → HasForm graph element form →
      HasForm graph id [.array form]
  | object {id : TypeId} {record : RecordType} {properties : List Property}
      {form : Property → TypeForm} :
      graph.get? id = some (.record record) → record.arrayElement? = none →
      graph.recordProperties record = .ok properties →
      (∀ property ∈ properties, HasForm graph property.type (form property)) →
      HasForm graph id
        [.object (properties.map fun property =>
          (property.name, property.optional, form property))]
  | enum {id : TypeId} {enum : EnumType} :
      graph.get? id = some (.enum enum) → enum.members ≠ [] →
      HasForm graph id (enum.values.map .ofLiteral)
  | union {id : TypeId} {union : UnionType} {form : TypeId → TypeForm} :
      graph.get? id = some (.union union) → union.variants ≠ [] →
      (∀ variant ∈ union.variants, HasForm graph variant (form variant)) →
      HasForm graph id (union.variants.flatMap form)
  | text {id : TypeId} {value : String} :
      graph.get? id = some (.stringLiteral value) → HasForm graph id [.text value]
  | numeral {id : TypeId} {value : Number} :
      graph.get? id = some (.numericLiteral value) → HasForm graph id [.numeral value.text]
  | truth {id : TypeId} {value : Bool} :
      graph.get? id = some (.booleanLiteral value) → HasForm graph id [.truth value]
  | tuple {id : TypeId} {items : List TypeId} {form : TypeId → TypeForm} :
      graph.get? id = some (.tuple items) →
      (∀ item ∈ items, HasForm graph item (form item)) → HasForm graph id [.tuple (items.map form)]
  | null {id : TypeId} : graph.get? id = some .null → HasForm graph id [.null]
  | unknown {id : TypeId} : graph.get? id = some .unknown → HasForm graph id [.unknown]

variable {graph : Graph} {id : TypeId} {form other : TypeForm}

/-- A type has no more than one form. -/
theorem HasForm.unique (first : graph.HasForm id form) (second : graph.HasForm id other) :
    form = other := by
  -- The node decides which constructor applies, so only the cases of equal constructors remain.
  induction first generalizing other with
  | scalar found kind => cases second <;> simp_all [element?]
  | array hasElement _ induction =>
      cases second with
      | array otherElement ofElement =>
          rcases Option.some.inj (hasElement.symm.trans otherElement) with rfl
          rw [induction ofElement]
      | _ => simp_all [element?]
  | object found shape ofRecord _ induction =>
      cases second with
      | object otherFound _ otherOfRecord each =>
          cases found.symm.trans otherFound
          cases ofRecord.symm.trans otherOfRecord
          refine congrArg (fun members => [TypeVariant.object members]) (List.map_congr_left ?_)
          intro property member
          rw [induction property member (each property member)]
      | _ => simp_all [element?]
  | enum found nonempty => cases second <;> simp_all [element?]
  | union found _ _ induction =>
      cases second with
      | union otherFound _ each =>
          cases found.symm.trans otherFound
          exact List.flatMap_congr fun variant member =>
            induction variant member (each variant member)
      | _ => simp_all [element?]
  | text found => cases second <;> simp_all [element?]
  | numeral found => cases second <;> simp_all [element?]
  | truth found => cases second <;> simp_all [element?]
  | tuple found _ induction =>
      cases second with
      | tuple otherFound each =>
          cases found.symm.trans otherFound
          refine congrArg (fun items => [TypeVariant.tuple items]) (List.map_congr_left ?_)
          exact fun item member => induction item member (each item member)
      | _ => simp_all [element?]
  | null found => cases second <;> simp_all [element?]
  | unknown found => cases second <;> simp_all [element?]

/-! ## Numbers of variants -/

theorem length_le_length_flatMap {variants : List TypeId} {form : TypeId → TypeForm}
    (each : ∀ variant ∈ variants, form variant ≠ []) :
    variants.length ≤ (variants.flatMap form).length := by
  induction variants with
  | nil => exact Nat.zero_le _
  | cons variant rest induction =>
      rcases List.forall_mem_cons.mp each with ⟨ofVariant, ofRest⟩
      have atLeastOne := List.length_pos_iff.mpr ofVariant
      have others := induction ofRest
      rw [List.flatMap_cons, List.length_append, List.length_cons]
      omega

theorem HasForm.ne_nil (hasForm : graph.HasForm id form) : form ≠ [] := by
  induction hasForm with
  | enum found nonempty => simpa [EnumType.values] using nonempty
  | union found nonempty _ induction =>
      have counted := length_le_length_flatMap induction
      rw [← List.length_pos_iff] at nonempty ⊢
      omega
  | _ => exact List.cons_ne_nil _ _

/-- A union has at least as many variants in its form as it has itself. -/
theorem HasForm.length_variants_le {union : UnionType} (hasForm : graph.HasForm id form)
    (found : graph.get? id = some (.union union)) : union.variants.length ≤ form.length := by
  cases hasForm with
  | union otherFound _ each =>
      cases found.symm.trans otherFound
      exact length_le_length_flatMap fun variant member => (each variant member).ne_nil
  | _ => simp_all [element?]

theorem HasForm.exists_of_element? {element : TypeId} (hasForm : graph.HasForm id form)
    (hasElement : graph.element? id = some element) : ∃ items, form = [.array items] := by
  cases hasForm with
  | array => exact ⟨_, rfl⟩
  | _ => simp_all [element?]

end Graph

end EntitySchema
