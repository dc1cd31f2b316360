import Mathlib
import EntitySchema.Proofs.Schema.Content
import EntitySchema.Proofs.WalkDepth
/-!
What the attribute types of a graph have in common.

Sets and choices are never empty and the names of a map never repeat, however deep they lie. So
nothing is lost when the properties of a map become the entries of a record, and the code in the
declaration of a type is just that of its custom types.
-/

namespace EntitySchema

namespace AttributeType

inductive IsWellFormed : AttributeType → Prop
  | string : IsWellFormed .string
  | number : IsWellFormed .number
  | boolean : IsWellFormed .boolean
  | list {items : AttributeType} : IsWellFormed items → IsWellFormed (.list items)
  | map {properties : List (String × AttributeType)} : (properties.map Prod.fst).Nodup →
      (∀ property ∈ properties, IsWellFormed property.2) → IsWellFormed (.map properties)
  | set {values : List String} : values ≠ [] → IsWellFormed (.set values)
  | choice {values : List Literal} : values ≠ [] → IsWellFormed (.choice values)
  | custom (expression : String) : IsWellFormed (.custom expression)

/-! ## Custom types -/

mutual

def customExpressions : AttributeType → List String
  | .custom expression => [expression]
  | .list items => customExpressions items
  | .map properties => propertyExpressions properties
  | _ => []

def propertyExpressions : List (String × AttributeType) → List String
  | [] => []
  | (_, type) :: rest => customExpressions type ++ propertyExpressions rest

end

@[simp] theorem customExpressions_map (properties : List (String × AttributeType)) :
    customExpressions (.map properties) =
      properties.flatMap fun property => property.2.customExpressions := by
  rw [customExpressions]
  induction properties with
  | nil => rfl
  | cons property rest induction => rw [propertyExpressions, induction, List.flatMap_cons]

@[simp] theorem usesCustomType_map (properties : List (String × AttributeType)) :
    usesCustomType (.map properties) = properties.any fun property => property.2.usesCustomType := by
  rw [usesCustomType]
  induction properties with
  | nil => rfl
  | cons property rest induction => rw [propertiesUseCustomType, induction, List.any_cons]

variable {type : AttributeType} {config : Config}

theorem usesCustomType_iff (wellFormed : type.IsWellFormed) :
    type.usesCustomType = true ↔ type.customExpressions ≠ [] := by
  induction wellFormed with
  | list _ induction => simpa [usesCustomType, customExpressions] using induction
  | map _ _ induction =>
      simp only [usesCustomType_map, customExpressions_map, List.any_eq_true, ne_eq,
        List.flatMap_eq_nil_iff, not_forall, exists_prop]
      exact exists_congr fun property => and_congr_right (induction property)
  | _ => simp [usesCustomType, customExpressions]

theorem members_map (config : Config) {properties : List (String × AttributeType)}
    (nodup : (properties.map Prod.fst).Nodup) :
    members config (.map properties) =
      [("type", .text "map"), ("properties", .record (properties.map fun property =>
        (property.1, .record (property.2.members config))))] := by
  have keys : (Record.keys (properties.map fun property =>
      (property.1, Value.record (property.2.members config)))).Nodup := by
    simpa [Record.keys, Function.comp_def] using nodup
  rw [members, propertyMembers_eq_map, Record.ofPairs_of_nodup_keys _ keys]

theorem sources_declaration_text (content : String) (fields : Record Value) :
    (Value.record (("type", .text content) :: fields)).sources = (Value.record fields).sources := by
  rw [Value.sources_record, Value.sources_record, List.flatMap_cons]
  rfl

theorem sources_list_map {α : Type} {write : α → Value} (noCode : ∀ value, (write value).sources = [])
    (values : List α) : (Value.list (values.map write)).sources = [] := by
  rw [Value.sources_list, List.flatMap_map, List.flatMap_eq_nil_iff]
  intro value _
  exact noCode value

theorem sources_ofLiteral (literal : Literal) : (Value.ofLiteral literal).sources = [] := by
  cases literal <;> rfl

/-- The code in the declaration of a type constructs its custom types, one after the other. -/
theorem sources_members (wellFormed : type.IsWellFormed) :
    (Value.record (type.members config)).sources =
      type.customExpressions.map (customTypeSource config) := by
  induction wellFormed with
  | list _ induction =>
      rw [members, sources_declaration_text, Value.sources_record, List.flatMap_singleton,
        induction, customExpressions]
  | map nodup _ induction =>
      rw [members_map config nodup, sources_declaration_text, Value.sources_record,
        List.flatMap_singleton, Value.sources_record, List.flatMap_map, customExpressions_map,
        List.map_flatMap]
      exact List.flatMap_congr induction
  | set _ =>
      rw [members, sources_declaration_text, Value.sources_record, List.flatMap_singleton,
        sources_list_map fun _ => rfl]
      rfl
  | choice _ =>
      rw [members, Value.sources_record, List.flatMap_singleton, sources_list_map sources_ofLiteral]
      rfl
  | _ => rfl

end AttributeType

namespace Graph

variable {graph : Graph} {id : TypeId} {type : AttributeType}

theorem isWellFormed_of_attributeType (mapped : graph.attributeType id = .ok type) :
    type.IsWellFormed := by
  refine attributeType_induction ?scalar ?set ?list ?map ?choice ?custom mapped
  case scalar =>
    intro kind
    cases kind <;> constructor
  case set =>
    intro values nonempty
    exact .set (by simpa using nonempty)
  case list =>
    intro items wellFormed
    exact .list wellFormed
  case map =>
    intro properties types nodup wellFormed
    apply AttributeType.IsWellFormed.map
    · simpa [Function.comp_def] using nodup
    · exact List.forall_mem_map.mpr wellFormed
  case choice =>
    intro values nonempty
    exact .choice nonempty
  case custom =>
    intro _ _ expression _ _
    exact .custom expression

/-- Every custom type comes from a union, and its expression is that of the union. -/
theorem exists_union_of_mem_customExpressions (mapped : graph.attributeType id = .ok type) :
    ∀ expression ∈ type.customExpressions, ∃ id union,
      graph.get? id = some (.union union) ∧ graph.typeExpression id = .ok expression := by
  refine attributeType_induction ?scalar ?set ?list ?map ?choice ?custom mapped
  case scalar =>
    intro kind
    cases kind <;> simp [AttributeType.ofScalarKind, AttributeType.customExpressions]
  case set => simp [AttributeType.customExpressions]
  case list =>
    intro items induction
    simpa [AttributeType.customExpressions] using induction
  case map =>
    intro properties types _ induction expression member
    rw [AttributeType.customExpressions_map, List.flatMap_map, List.mem_flatMap] at member
    rcases member with ⟨property, listed, inType⟩
    exact induction property listed expression inType
  case choice => simp [AttributeType.customExpressions]
  case custom =>
    intro id union expression found written
    simp only [AttributeType.customExpressions, List.forall_mem_singleton]
    exact ⟨id, union, found, written⟩

end Graph

end EntitySchema
