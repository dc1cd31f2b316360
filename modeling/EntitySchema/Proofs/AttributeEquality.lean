import Mathlib
import EntitySchema.Proofs.WellFormedType
/-!
Equality of attributes, and of the object literals that declare them.

A declaration leaves out what an attribute does not have, and different types share the names of
their members. Still no two attributes that differ are declared alike.
-/

namespace EntitySchema

/-! ## Equality

Numbers compare by value, as they do everywhere, and validators by their source. -/

namespace AttributeType

mutual

def equals : AttributeType → AttributeType → Bool
  | .string, .string => true
  | .number, .number => true
  | .boolean, .boolean => true
  | .list left, .list right => equals left right
  | .map left, .map right => propertiesEqual left right
  | .set left, .set right => left == right
  | .choice left, .choice right => left.isEqv right Literal.equals
  | .custom left, .custom right => left == right
  | _, _ => false

def propertiesEqual : List (String × AttributeType) → List (String × AttributeType) → Bool
  | [], [] => true
  | (leftName, left) :: lefts, (rightName, right) :: rights =>
    leftName == rightName && equals left right && propertiesEqual lefts rights
  | _, _ => false

end

end AttributeType

instance : BEq AttributeDefault where
  beq
    | .literal left, .literal right => left.equals right
    | .now, .now => true
    | _, _ => false

instance : BEq Validator where
  beq left right := left.source == right.source

def Attribute.equals (left right : Attribute) : Bool :=
  left.type.equals right.type && left.required == right.required &&
    left.default == right.default && left.readOnly == right.readOnly &&
    left.watchAll == right.watchAll && left.set == right.set && left.label == right.label &&
    left.field == right.field && left.validator == right.validator

/-! ## Members that may be left out -/

theorem memberIf_eq_optionalMember (condition : Bool) (key : String) (value : Value) :
    memberIf condition key value =
      optionalMember key (fun _ : Unit => value) (if condition then some () else none) := by
  cases condition <;> rfl

namespace Record

variable {key wanted : String}

theorem mem_keys_optionalMember {α : Type} {write : α → Value} {content : Option α} :
    wanted ∈ keys (optionalMember key write content) ↔ wanted = key ∧ content.isSome = true := by
  cases content <;> simp [optionalMember]

theorem mem_keys_memberIf {condition : Bool} {value : Value} :
    wanted ∈ keys (memberIf condition key value) ↔ wanted = key ∧ condition = true := by
  rw [memberIf_eq_optionalMember, mem_keys_optionalMember]
  cases condition <;> simp

end Record

namespace Value

variable {key : String} {fields others : Record Value}

theorem fieldsEqual_cons_of_notMem (absent : key ∉ Record.keys others) (value : Value) :
    fieldsEqual ((key, value) :: fields) others = false := by
  cases others with
  | nil => rfl
  | cons other rest =>
      have different : key ≠ other.1 := List.ne_of_not_mem_cons absent
      simp [fieldsEqual, different]

theorem fieldsEqual_of_notMem_cons (absent : key ∉ Record.keys fields) (value : Value) :
    fieldsEqual fields ((key, value) :: others) = false := by
  cases fields with
  | nil => rfl
  | cons field rest =>
      have different : field.1 ≠ key := (List.ne_of_not_mem_cons absent).symm
      simp [fieldsEqual, different]

theorem fieldsEqual_optionalMember {α : Type} [BEq α] {write : α → Value} {left right : Option α}
    (absent : key ∉ Record.keys fields) (absentToo : key ∉ Record.keys others)
    (faithful : ∀ value ∈ left, ∀ other ∈ right,
      (write value).equals (write other) = (value == other)) :
    fieldsEqual (optionalMember key write left ++ fields)
        (optionalMember key write right ++ others) =
      (left == right && fieldsEqual fields others) := by
  cases left with
  | none =>
      cases right with
      | none => simp [optionalMember]
      | some other => simp [optionalMember, fieldsEqual_of_notMem_cons absent]
  | some value =>
      cases right with
      | none => simp [optionalMember, fieldsEqual_cons_of_notMem absentToo]
      | some other => simp [optionalMember, fieldsEqual, faithful]

theorem fieldsEqual_memberIf {value : Value} (equal : value.equals value = true)
    (absent : key ∉ Record.keys fields) (absentToo : key ∉ Record.keys others)
    (left right : Bool) :
    fieldsEqual (memberIf left key value ++ fields) (memberIf right key value ++ others) =
      (left == right && fieldsEqual fields others) := by
  rw [memberIf_eq_optionalMember, memberIf_eq_optionalMember,
    fieldsEqual_optionalMember absent absentToo fun _ _ _ _ => equal]
  cases left <;> cases right <;> rfl

theorem itemsEqual_map_map {α : Type} {write : α → Value} {same : α → α → Bool}
    (faithful : ∀ left right, (write left).equals (write right) = same left right)
    (lefts rights : List α) :
    itemsEqual (lefts.map write) (rights.map write) = lefts.isEqv rights same := by
  induction lefts generalizing rights with
  | nil => cases rights <;> rfl
  | cons left rest induction =>
      cases rights with
      | nil => rfl
      | cons right others => simp [itemsEqual, List.isEqv, faithful, induction]

theorem itemsEqual_map_text (lefts rights : List String) :
    itemsEqual (lefts.map text) (rights.map text) = (lefts == rights) :=
  (itemsEqual_map_map (fun _ _ => by rw [equals]) lefts rights).trans List.beq_eq_isEqv.symm

theorem itemsEqual_map_ofLiteral (lefts rights : List Literal) :
    itemsEqual (lefts.map ofLiteral) (rights.map ofLiteral) =
      lefts.isEqv rights Literal.equals := by
  apply itemsEqual_map_map
  intro left right
  cases left <;> cases right <;> simp [ofLiteral, equals, Literal.equals]

end Value

/-! ## Types -/

namespace AttributeType

variable {config : Config}

theorem beq_customTypeSource (left right : String) :
    (customTypeSource config left == customTypeSource config right) = (left == right) := by
  rw [Bool.eq_iff_iff]
  simp [customTypeSource]

theorem fieldsEqual_properties (config : Config) {lefts rights : List (String × AttributeType)}
    (faithful : ∀ left ∈ lefts, ∀ right ∈ rights,
      Value.fieldsEqual (left.2.members config) (right.2.members config) =
        left.2.equals right.2) :
    Value.fieldsEqual (lefts.map fun left => (left.1, .record (left.2.members config)))
        (rights.map fun right => (right.1, .record (right.2.members config))) =
      propertiesEqual lefts rights := by
  induction lefts generalizing rights with
  | nil => cases rights <;> rfl
  | cons left rest induction =>
      cases rights with
      | nil => rfl
      | cons right others =>
          have ofFirst := faithful left List.mem_cons_self right List.mem_cons_self
          have ofRest := induction fun left inRest right inOthers =>
            faithful left (List.mem_cons_of_mem _ inRest) right (List.mem_cons_of_mem _ inOthers)
          simp [Value.fieldsEqual, Value.equals, propertiesEqual, ofFirst, ofRest]

/-- The members that declare a type tell it apart from all others, whatever follows them. -/
theorem fieldsEqual_members {left right : AttributeType} (ofLeft : left.IsWellFormed)
    (ofRight : right.IsWellFormed) (fields others : Record Value) :
    Value.fieldsEqual (left.members config ++ fields) (right.members config ++ others) =
      (left.equals right && Value.fieldsEqual fields others) := by
  -- The first member tells types of different kinds apart, so each kind is compared with itself.
  induction ofLeft generalizing right fields others with
  | list _ induction =>
      cases ofRight with
      | list ofItems =>
          have ofLists := induction ofItems [] []
          simp only [List.append_nil, Value.fieldsEqual, Bool.and_true] at ofLists
          simp [members, Value.fieldsEqual, Value.equals, equals, ofLists]
      | _ => rfl
  | map nodup _ induction =>
      cases ofRight with
      | map otherNodup ofProperties =>
          have ofMaps := fieldsEqual_properties config fun left member right listed => by
            simpa [Value.fieldsEqual] using induction left member (ofProperties right listed) [] []
          simp [members_map config nodup, members_map config otherNodup, Value.fieldsEqual,
            Value.equals, equals, ofMaps]
      | _ => rfl
  | set _ =>
      cases ofRight with
      | set _ =>
          simp [members, Value.fieldsEqual, Value.equals, equals, Value.itemsEqual_map_text]
      | _ => rfl
  | choice _ =>
      cases ofRight with
      | choice _ =>
          simp [members, Value.fieldsEqual, Value.equals, equals, Value.itemsEqual_map_ofLiteral]
      | _ => rfl
  | custom _ =>
      cases ofRight with
      | custom _ => simp [members, Value.fieldsEqual, Value.equals, equals, beq_customTypeSource]
      | _ => rfl
  | _ => cases ofRight <;> rfl

end AttributeType

/-! ## Attributes -/

namespace AttributeDefault

/-- A literal default is not code. -/
def IsData (default : AttributeDefault) : Prop := ∀ code, default ≠ .literal (.source code)

theorem equals_toValue {config : Config} {left right : AttributeDefault} (ofLeft : left.IsData)
    (ofRight : right.IsData) :
    (left.toValue config).equals (right.toValue config) = (left == right) := by
  cases left with
  | literal value =>
      cases right with
      | literal other => rfl
      | now =>
          cases value with
          | source code => exact absurd rfl (ofLeft code)
          | _ => rfl
  | now =>
      cases right with
      | literal other =>
          cases other with
          | source code => exact absurd rfl (ofRight code)
          | _ => rfl
      | now => simp [toValue, Value.equals, BEq.beq]

end AttributeDefault

namespace Attribute

variable {config : Config}

/-- The declaration of the attribute can be read back: its type is well formed, and its literals
cannot be taken for the current time. -/
structure IsUnambiguous (attr : Attribute) : Prop where
  type : attr.type.IsWellFormed
  default : ∀ value ∈ attr.default, value.IsData
  set : ∀ value ∈ attr.set, value.IsData

theorem equals_toValue {left right : Attribute} (ofLeft : left.IsUnambiguous)
    (ofRight : right.IsUnambiguous) :
    (left.toValue config).equals (right.toValue config) = left.equals right := by
  have ofDefaults : ∀ value ∈ left.default, ∀ other ∈ right.default,
      (value.toValue config).equals (other.toValue config) = (value == other) :=
    fun value member other listed =>
      AttributeDefault.equals_toValue (ofLeft.default value member) (ofRight.default other listed)
  have ofSets : ∀ value ∈ left.set, ∀ other ∈ right.set,
      (value.toValue config).equals (other.toValue config) = (value == other) :=
    fun value member other listed =>
      AttributeDefault.equals_toValue (ofLeft.set value member) (ofRight.set other listed)
  simp only [toValue, Value.equals, List.append_assoc]
  rw [← List.append_nil (optionalMember "validate" _ left.validator),
    ← List.append_nil (optionalMember "validate" _ right.validator),
    AttributeType.fieldsEqual_members ofLeft.type ofRight.type,
    Value.fieldsEqual_memberIf rfl ?_ ?_, Value.fieldsEqual_optionalMember ?_ ?_ ofDefaults,
    Value.fieldsEqual_memberIf rfl ?_ ?_, Value.fieldsEqual_memberIf rfl ?_ ?_,
    Value.fieldsEqual_optionalMember ?_ ?_ ofSets,
    Value.fieldsEqual_optionalMember ?_ ?_ (fun _ _ _ _ => by rw [Value.equals]),
    Value.fieldsEqual_optionalMember ?_ ?_ (fun _ _ _ _ => by rw [Value.equals]),
    Value.fieldsEqual_optionalMember ?_ ?_ (fun _ _ _ _ => by rw [Value.equals]; rfl)]
  · simp [Attribute.equals, Value.fieldsEqual, Bool.and_assoc]
  -- No two members have the same name.
  all_goals simp [Record.keys_append, Record.mem_keys_optionalMember, Record.mem_keys_memberIf]

variable {graph otherGraph : Graph} {entity otherEntity : EntityMetadata}
  {property otherProperty : Property} {left right attr : Attribute}

theorem memberValue_ne_source (graph : Graph) (enumType : TypeId) (name code : String) :
    memberValue graph enumType name ≠ .source code := by
  unfold memberValue
  split
  · split
    · next member _ => cases ofMember : member.resolvedValue <;> simp [Value.ofLiteral]
    · simp
  · simp

theorem isData_defaultValue? {default : DefaultValue} {value : Value}
    (carried : defaultValue? graph default = some value) :
    (AttributeDefault.literal value).IsData := by
  intro code isCode
  cases isCode
  cases default with
  | enumMember enumType member =>
      exact memberValue_ne_source graph enumType member code (Option.some.inj carried)
  | _ => cases carried

theorem IsUnambiguous.annotate (unambiguous : attr.IsUnambiguous)
    (metadata : Option PropertyMetadata) : (attr.annotate metadata).IsUnambiguous := by
  cases metadata <;> exact ⟨unambiguous.type, unambiguous.default, unambiguous.set⟩

theorem isUnambiguous_of_ofTimestamp {path : String} {type : AttributeType}
    {marker : TimestampMarker} (wellFormed : type.IsWellFormed)
    (declared : ofTimestamp path type marker = .ok attr) : attr.IsUnambiguous := by
  have now : AttributeDefault.now.IsData := by
    intro code isCode
    cases isCode
  rcases eq_of_ofTimestamp declared with rfl | rfl
  · exact ⟨wellFormed, by simp [now], by simp⟩
  · exact ⟨wellFormed, by simp [now], by simp [now]⟩

theorem isUnambiguous_of_ofPlain {type : AttributeType} (wellFormed : type.IsWellFormed)
    (declared : ofPlain graph type property = .ok attr) : attr.IsUnambiguous := by
  rcases exists_validator_of_ofPlain declared with ⟨validator, rfl⟩
  refine ⟨wellFormed, fun value member => ?_, by simp⟩
  rcases Option.map_eq_some_iff.mp member with ⟨content, carried, rfl⟩
  rcases Option.bind_eq_some_iff.mp carried with ⟨default, _, carried⟩
  exact isData_defaultValue? carried

theorem isUnambiguous_of_compose (composed : compose graph entity property = .ok attr) :
    attr.IsUnambiguous := by
  rcases exists_declared_of_compose composed with ⟨type, declared, mapped, ofDeclaration, rfl⟩
  have wellFormed := Graph.isWellFormed_of_attributeType mapped
  apply IsUnambiguous.annotate
  rcases ofDeclaration with ⟨path, marker, ofMarker⟩ | ofProperty
  · exact isUnambiguous_of_ofTimestamp wellFormed ofMarker
  · exact isUnambiguous_of_ofPlain wellFormed ofProperty

/-- Two properties have equal declarations just if their attributes are equal, so a declaration
loses nothing of its attribute. -/
theorem equals_toValue_of_compose (composed : compose graph entity property = .ok left)
    (composedToo : compose otherGraph otherEntity otherProperty = .ok right) (config : Config) :
    (left.toValue config).equals (right.toValue config) = left.equals right :=
  equals_toValue (isUnambiguous_of_compose composed) (isUnambiguous_of_compose composedToo)

def boxGraph (unit : Literal) : Graph where
  types := #[
    .scalar { name := "numeric" },
    .enum { name := "Unit", members := [{ name := "cm" }, { name := "m", value := some unit }] },
    .record {
      name := "Measure"
      properties := [{ name := "amount", type := ⟨0⟩ }, { name := "unit", type := ⟨1⟩ }] },
    .array ⟨2⟩]

def boxEntity : EntityMetadata := { node := ⟨4⟩, entity := "Box" }

def sizesProperty (floor : Number) : Property where
  name := "sizes"
  type := ⟨3⟩
  default := some (.number floor)
  facets := { minLength := some 1, minValue := some floor }

def sizesAttribute (unit : Literal) (floor : Number) : Attribute where
  type := .list (.map [("amount", .number), ("unit", .choice [.text "cm", unit])])
  required := true
  default := some (.literal (.number floor))
  validator := some { property := "sizes", checks := [.minLength 1, .minValue floor] }

theorem compose_sizesProperty (unit : Literal) (floor : Number) :
    compose (boxGraph unit) boxEntity (sizesProperty floor) =
      .ok (sizesAttribute unit floor) := rfl

/-- A whole number and a double make equal units, defaults and validators. A number and its text
make different units. -/
theorem equals_toValue_sizesAttribute :
    compose (boxGraph (.number (.int 1))) boxEntity (sizesProperty (.int 5)) =
        .ok (sizesAttribute (.number (.int 1)) (.int 5)) ∧
      compose (boxGraph (.number (.float (.ofInt 1)))) boxEntity
          (sizesProperty (.float (.ofInt 5))) =
        .ok (sizesAttribute (.number (.float (.ofInt 1))) (.float (.ofInt 5))) ∧
      compose (boxGraph (.text "1")) boxEntity (sizesProperty (.int 5)) =
        .ok (sizesAttribute (.text "1") (.int 5)) ∧
      ((sizesAttribute (.number (.int 1)) (.int 5)).toValue {}).equals
        ((sizesAttribute (.number (.float (.ofInt 1))) (.float (.ofInt 5))).toValue {}) = true ∧
      ((sizesAttribute (.number (.int 1)) (.int 5)).toValue {}).equals
        ((sizesAttribute (.text "1") (.int 5)).toValue {}) = false := by
  have equal :
      (sizesAttribute (.number (.int 1)) (.int 5)).equals
        (sizesAttribute (.number (.float (.ofInt 1))) (.float (.ofInt 5))) = true := by
    decide +kernel
  have different :
      (sizesAttribute (.number (.int 1)) (.int 5)).equals (sizesAttribute (.text "1") (.int 5)) =
        false := by
    decide +kernel
  refine ⟨compose_sizesProperty _ _, compose_sizesProperty _ _, compose_sizesProperty _ _, ?_, ?_⟩
  · rw [equals_toValue_of_compose (compose_sizesProperty _ _) (compose_sizesProperty _ _), equal]
  · rw [equals_toValue_of_compose (compose_sizesProperty _ _) (compose_sizesProperty _ _),
      different]

end Attribute

end EntitySchema
