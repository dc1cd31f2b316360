import Mathlib
import EntitySchema.Proofs.AttributeType
import EntitySchema.Proofs.Model.Numbers
import EntitySchema.Proofs.Schema.Assembly
import EntitySchema.Proofs.Value.Nodes
/-!
What the declaration of a schema holds: numbers that stand in the graph, and code of three kinds,
which is the source of the current time, the construction of a custom type, or a validator.
-/

namespace EntitySchema

inductive IsGeneratedCode (graph : Graph) (config : Config) : String → Prop
  | now : IsGeneratedCode graph config config.timestamps.nowSource
  | customType {depth : Nat} {opened : List TypeId} {id : TypeId} {expression : List Char} :
      TypeExpression.walk graph depth opened id = .ok expression →
      IsGeneratedCode graph config (customTypeSource config (String.ofList expression))
  | validator (validator : Validator) : IsGeneratedCode graph config validator.source

/-! ## Values that are drawn from a graph -/

namespace Value

/-- The node itself, apart from what is inside it, is drawn from the graph. -/
def IsDrawnNode (graph : Graph) (config : Config) : Value → Prop
  | .number value => value ∈ graph.numbers
  | .source code => IsGeneratedCode graph config code
  | _ => True

/-- Every number in the value stands in the graph, and every code in it is generated. -/
def IsDrawn (graph : Graph) (config : Config) (value : Value) : Prop :=
  ∀ node ∈ value.nodes, node.IsDrawnNode graph config

variable {graph : Graph} {config : Config}

theorem isDrawn_leaf_iff {value : Value} (leaf : value.isComposite = false) :
    value.IsDrawn graph config ↔ value.IsDrawnNode graph config := by
  simp [IsDrawn, nodes_leaf leaf]

@[simp] theorem isDrawn_text (content : String) : (text content).IsDrawn graph config :=
  (isDrawn_leaf_iff rfl).mpr trivial

@[simp] theorem isDrawn_bool (content : Bool) : (bool content).IsDrawn graph config :=
  (isDrawn_leaf_iff rfl).mpr trivial

@[simp] theorem isDrawn_number_iff {content : Number} :
    (number content).IsDrawn graph config ↔ content ∈ graph.numbers :=
  isDrawn_leaf_iff rfl

@[simp] theorem isDrawn_source_iff {code : String} :
    (source code).IsDrawn graph config ↔ IsGeneratedCode graph config code :=
  isDrawn_leaf_iff rfl

@[simp] theorem isDrawn_list_iff {items : List Value} :
    (list items).IsDrawn graph config ↔ ∀ item ∈ items, item.IsDrawn graph config := by
  simp only [IsDrawn, nodes_list, List.forall_mem_cons, List.forall_mem_flatMap]
  simp [IsDrawnNode]

def AreDrawn (graph : Graph) (config : Config) (fields : Record Value) : Prop :=
  ∀ field ∈ fields, field.2.IsDrawn graph config

@[simp] theorem isDrawn_record_iff {fields : Record Value} :
    (record fields).IsDrawn graph config ↔ AreDrawn graph config fields := by
  simp only [IsDrawn, AreDrawn, nodes_record, List.forall_mem_cons, List.forall_mem_flatMap]
  simp [IsDrawnNode]

@[simp] theorem areDrawn_nil : AreDrawn graph config [] := List.forall_mem_nil _

@[simp] theorem areDrawn_cons {field : String × Value} {fields : Record Value} :
    AreDrawn graph config (field :: fields) ↔
      field.2.IsDrawn graph config ∧ AreDrawn graph config fields :=
  List.forall_mem_cons

@[simp] theorem areDrawn_append {fields others : Record Value} :
    AreDrawn graph config (fields ++ others) ↔
      AreDrawn graph config fields ∧ AreDrawn graph config others :=
  List.forall_mem_append

@[simp] theorem areDrawn_optionalMember {α : Type} {key : String} {write : α → Value}
    {content : Option α} : AreDrawn graph config (optionalMember key write content) ↔
      ∀ value ∈ content, (write value).IsDrawn graph config := by
  cases content <;> simp [optionalMember]

@[simp] theorem areDrawn_memberIf {condition : Bool} {key : String} {value : Value} :
    AreDrawn graph config (memberIf condition key value) ↔
      (condition = true → value.IsDrawn graph config) := by
  cases condition <;> simp [memberIf]

theorem areDrawn_ofPairs_map {α : Type} (key : α → String) {write : α → Value} {items : List α}
    (each : ∀ item ∈ items, (write item).IsDrawn graph config) :
    AreDrawn graph config (Record.ofPairs (items.map fun item => (key item, write item))) := by
  intro field member
  -- Pairs with a repeated key are dropped, but nothing is added.
  rcases List.mem_map.mp (Record.ofPairs_subset _ member) with ⟨item, listed, rfl⟩
  exact each item listed

end Value

variable {graph : Graph} {config : Config}

/-! ## Literals -/

theorem Value.isDrawn_ofLiteral {literal : Literal} (stands : literal.numbers ⊆ graph.numbers) :
    (Value.ofLiteral literal).IsDrawn graph config := by
  cases literal with
  | text content => exact Value.isDrawn_text content
  | number content => exact Value.isDrawn_number_iff.mpr (stands List.mem_cons_self)

theorem EnumMember.numbers_resolvedValue (member : EnumMember) :
    member.resolvedValue.numbers ⊆ member.numbers := by
  unfold resolvedValue numbers
  cases member.value with
  | none => simp [Literal.numbers]
  | some value => simp

theorem EnumType.numbers_of_mem {enum : EnumType} {id : TypeId} {member : EnumMember}
    (found : graph.get? id = some (.enum enum)) (listed : member ∈ enum.members) :
    member.resolvedValue.numbers ⊆ graph.numbers := by
  intro number stands
  apply Graph.numbers_of_get? found
  exact List.mem_flatMap.mpr ⟨member, listed, member.numbers_resolvedValue stands⟩

theorem Graph.numbers_of_literal? {id : TypeId} {literal : Literal}
    (isLiteral : graph.literal? id = some literal) : literal.numbers ⊆ graph.numbers := by
  rcases Option.bind_eq_some_iff.mp isLiteral with ⟨node, found, ofNode⟩
  have stands := Graph.numbers_of_get? found
  cases node with
  | stringLiteral content =>
      cases ofNode
      simp [Literal.numbers]
  | numericLiteral content =>
      cases ofNode
      exact stands
  | _ => cases ofNode

theorem Graph.AreLiterals.numbers_subset {variants : List TypeId} {values : List Literal}
    (literals : graph.AreLiterals variants values) {value : Literal} (member : value ∈ values) :
    value.numbers ⊆ graph.numbers := by
  have listed : some value ∈ variants.map graph.literal? := by
    rw [literals]
    exact List.mem_map_of_mem member
  rcases List.mem_map.mp listed with ⟨variant, _, isLiteral⟩
  exact Graph.numbers_of_literal? isLiteral

/-! ## Types -/

namespace AttributeType

theorem propertyMembers_eq_map (properties : List (String × AttributeType)) :
    propertyMembers config properties =
      properties.map fun property => (property.1, .record (property.2.members config)) := by
  induction properties with
  | nil => rfl
  | cons property rest induction => rw [propertyMembers, induction, List.map_cons]

theorem areDrawn_members_of_attributeType {id : TypeId} {type : AttributeType}
    (mapped : graph.attributeType id = .ok type) :
    Value.AreDrawn graph config (type.members config) := by
  refine walk_induction ?_ (Nat.zero_le _) mapped
  intro id type step
  cases step with
  | @scalar _ kind => cases kind <;> simp [ofScalarKind, members]
  | set => simp [members]
  | list _ _ _ drawn => simpa [members] using drawn
  | map _ _ _ each =>
      have drawn := Value.areDrawn_ofPairs_map Property.name
        fun property member => Value.isDrawn_record_iff.mpr (each property member)
      simpa [members, propertyMembers_eq_map, Function.comp_def] using drawn
  | @enum enum found _ =>
      have drawn : ∀ member ∈ enum.members,
          (Value.ofLiteral member.resolvedValue).IsDrawn graph config :=
        fun member listed => Value.isDrawn_ofLiteral (EnumType.numbers_of_mem found listed)
      simpa [members, EnumType.values] using drawn
  | @literals _ values _ _ literals =>
      have drawn : ∀ value ∈ values, (Value.ofLiteral value).IsDrawn graph config :=
        fun value member => Value.isDrawn_ofLiteral (literals.numbers_subset member)
      simpa [members] using drawn
  | custom _ _ ofUnion =>
      rcases Graph.typeExpression_eq_ok_iff.mp ofUnion with ⟨written, walked, same⟩
      rw [← same]
      simpa [members] using IsGeneratedCode.customType walked

end AttributeType

/-! ## Attributes -/

namespace Attribute

variable {entity : EntityMetadata} {property : Property} {attr : Attribute}

/-- The attribute of a property has its type from the graph, and the rest of it from the timestamp
marker or from the property. -/
theorem exists_declared_of_compose (composed : compose graph entity property = .ok attr) :
    ∃ type declared, graph.attributeType property.type = .ok type ∧
      ((∃ path marker, ofTimestamp path type marker = .ok declared) ∨
        ofPlain graph type property = .ok declared) ∧
      declared.annotate (entity.property? property.name) = attr := by
  rw [compose, mapError_eq_ok_iff, composeAt] at composed
  cases mapped : graph.attributeType property.type with
  | error error => simp [mapped] at composed
  | ok type =>
      simp only [mapped] at composed
      rcases map_eq_ok_iff.mp composed with ⟨declared, ofDeclaration, annotated⟩
      refine ⟨type, declared, rfl, ?_, annotated⟩
      split at ofDeclaration
      · exact .inl ⟨_, _, ofDeclaration⟩
      · exact .inr ofDeclaration

theorem eq_of_ofTimestamp {path : String} {type : AttributeType} {marker : TimestampMarker}
    (declared : ofTimestamp path type marker = .ok attr) :
    attr = { type, required := true, default := some .now, field := marker.field,
             readOnly := true } ∨
      attr = { type, required := true, default := some .now, field := marker.field,
               watchAll := true, set := some .now } := by
  unfold ofTimestamp at declared
  split_ifs at declared
  cases kind : marker.kind with
  | created =>
      rw [kind] at declared
      exact .inl (Except.ok.inj declared).symm
  | updated =>
      rw [kind] at declared
      exact .inr (Except.ok.inj declared).symm

theorem exists_validator_of_ofPlain {type : AttributeType}
    (declared : ofPlain graph type property = .ok attr) :
    ∃ validator, attr =
      { type, required := !property.optional,
        default := (property.default.bind (defaultValue? graph)).map .literal, validator } := by
  unfold ofPlain at declared
  split at declared
  · cases declared
  · split at declared
    · cases declared
    · exact ⟨_, (Except.ok.inj declared).symm⟩

@[simp] theorem type_annotate (attr : Attribute) (metadata : Option PropertyMetadata) :
    (attr.annotate metadata).type = attr.type := by
  cases metadata <;> rfl

theorem attributeType_of_compose (composed : compose graph entity property = .ok attr) :
    graph.attributeType property.type = .ok attr.type := by
  rcases exists_declared_of_compose composed with ⟨type, declared, mapped, ofDeclaration, rfl⟩
  rw [mapped, type_annotate]
  rcases ofDeclaration with ⟨path, marker, ofMarker⟩ | ofProperty
  · rcases eq_of_ofTimestamp ofMarker with rfl | rfl <;> rfl
  · rcases exists_validator_of_ofPlain ofProperty with ⟨validator, rfl⟩
    rfl

theorem isDrawn_memberValue (enumType : TypeId) (name : String) :
    (memberValue graph enumType name).IsDrawn graph config := by
  unfold memberValue
  split
  · next enum found =>
      split
      · next member listed =>
          exact Value.isDrawn_ofLiteral
            (EnumType.numbers_of_mem found (List.mem_of_find?_eq_some listed))
      · exact Value.isDrawn_text name
  · exact Value.isDrawn_text name

theorem isDrawn_defaultValue? {default : DefaultValue} {value : Value}
    (stands : default.numbers ⊆ graph.numbers)
    (carried : defaultValue? graph default = some value) : value.IsDrawn graph config := by
  cases default with
  | string content =>
      cases carried
      exact Value.isDrawn_text content
  | number content =>
      cases carried
      exact Value.isDrawn_number_iff.mpr (stands List.mem_cons_self)
  | boolean content =>
      cases carried
      exact Value.isDrawn_bool content
  | enumMember enumType member =>
      cases carried
      exact isDrawn_memberValue enumType member
  | _ => cases carried

structure IsDrawn (graph : Graph) (config : Config) (attr : Attribute) : Prop where
  type : Value.AreDrawn graph config (attr.type.members config)
  default : ∀ value ∈ attr.default, (value.toValue config).IsDrawn graph config
  set : ∀ value ∈ attr.set, (value.toValue config).IsDrawn graph config

theorem IsDrawn.annotate (drawn : attr.IsDrawn graph config) (metadata : Option PropertyMetadata) :
    (attr.annotate metadata).IsDrawn graph config := by
  cases metadata <;> exact ⟨drawn.type, drawn.default, drawn.set⟩

theorem isDrawn_of_ofTimestamp {path : String} {type : AttributeType} {marker : TimestampMarker}
    (ofType : Value.AreDrawn graph config (type.members config))
    (declared : ofTimestamp path type marker = .ok attr) : attr.IsDrawn graph config := by
  have now : (AttributeDefault.now.toValue config).IsDrawn graph config :=
    Value.isDrawn_source_iff.mpr .now
  rcases eq_of_ofTimestamp declared with rfl | rfl
  · exact ⟨ofType, by simp [now], by simp⟩
  · exact ⟨ofType, by simp [now], by simp [now]⟩

theorem isDrawn_of_ofPlain {type : AttributeType}
    (ofType : Value.AreDrawn graph config (type.members config))
    (stands : property.numbers ⊆ graph.numbers)
    (declared : ofPlain graph type property = .ok attr) : attr.IsDrawn graph config := by
  have defaults : ∀ value ∈ (property.default.bind (defaultValue? graph)).map .literal,
      (AttributeDefault.toValue config value).IsDrawn graph config := by
    intro value member
    rcases Option.map_eq_some_iff.mp member with ⟨content, carried, rfl⟩
    rcases Option.bind_eq_some_iff.mp carried with ⟨own, ofProperty, carried⟩
    refine isDrawn_defaultValue? (fun number inDefault => stands ?_) carried
    simp [Property.numbers, ofProperty, inDefault]
  rcases exists_validator_of_ofPlain declared with ⟨validator, rfl⟩
  exact ⟨ofType, defaults, by simp⟩

theorem IsDrawn.toValue (drawn : attr.IsDrawn graph config) :
    (attr.toValue config).IsDrawn graph config := by
  have ofValidator : ∀ validator ∈ attr.validator, IsGeneratedCode graph config validator.source :=
    fun validator _ => .validator validator
  simpa [Attribute.toValue, drawn.type] using ⟨drawn.default, drawn.set, ofValidator⟩

theorem isDrawn_of_compose (stands : property.numbers ⊆ graph.numbers)
    (composed : compose graph entity property = .ok attr) : attr.IsDrawn graph config := by
  rcases exists_declared_of_compose composed with ⟨type, declared, mapped, ofDeclaration, rfl⟩
  have ofType : Value.AreDrawn graph config (type.members config) :=
    AttributeType.areDrawn_members_of_attributeType mapped
  apply IsDrawn.annotate
  rcases ofDeclaration with ⟨path, marker, ofMarker⟩ | ofProperty
  · exact isDrawn_of_ofTimestamp ofType ofMarker
  · exact isDrawn_of_ofPlain ofType stands ofProperty

end Attribute

/-! ## Schemas -/

theorem Key.isDrawn_toValue (key : Key) : key.toValue.IsDrawn graph config := by
  simp [Key.toValue]

theorem Index.isDrawn_toValue (index : Index) : index.toValue.IsDrawn graph config := by
  simp [Index.toValue, Key.isDrawn_toValue]

theorem Schema.isDrawn_toValue {schema : Schema}
    (attributes : ∀ entry ∈ schema.attributes, entry.2.IsDrawn graph config) :
    (schema.toValue config).IsDrawn graph config := by
  have ofAttributes := Value.areDrawn_ofPairs_map Prod.fst
    fun entry member => (attributes entry member).toValue
  have ofIndexes : Value.AreDrawn graph config
      (Record.ofPairs (schema.indexes.map fun entry => (entry.1, entry.2.toValue))) :=
    Value.areDrawn_ofPairs_map Prod.fst fun entry _ => entry.2.isDrawn_toValue
  simp [Schema.toValue, Identity.toValue, ofAttributes, ofIndexes]

/-- The declaration of an entity holds numbers of the graph and generated code. -/
theorem Schema.isDrawn_of_ofEntity {entity : EntityMetadata} {schema : Schema}
    (assembled : ofEntity graph config entity = .ok schema) :
    (schema.toValue config).IsDrawn graph config := by
  rcases exists_attributes_of_ofEntity assembled with
    ⟨record, attributeOf, found, attributes, composed⟩
  apply Schema.isDrawn_toValue
  intro entry member
  rw [attributes] at member
  rcases List.mem_map.mp member with ⟨property, listed, rfl⟩
  refine Attribute.isDrawn_of_compose (fun number inProperty => ?_) (composed property listed)
  exact Graph.numbers_of_get? found (List.mem_flatMap.mpr ⟨property, listed, inProperty⟩)

end EntitySchema
