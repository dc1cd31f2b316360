import Mathlib
import EntitySchema.Json.Decoding
/-!
Fields that are written into an object are found in it, and what is found is read back.

A field without a value is left out, so a value has to be told from none: what is written for it is
never `null`.
-/

namespace EntitySchema

namespace Json

variable {α : Type}

/-! ## Finding fields -/

@[simp] theorem field?_nil (key : String) : (object []).field? key = none := rfl

@[simp] theorem field?_cons (key name : String) (value : Json) (rest : List (String × Json)) :
    (object ((name, value) :: rest)).field? key =
      if name = key then some value else (object rest).field? key := by
  by_cases same : name = key <;> simp [field?, same]

@[simp] theorem field?_append (key : String) (fields rest : List (String × Json)) :
    (object (fields ++ rest)).field? key =
      ((object fields).field? key).or ((object rest).field? key) := by
  simp [field?, List.find?_append, Option.map_or]

@[simp] theorem field?_optionalField (key name : String) (write : α → Json) (value : Option α) :
    (object (optionalField name write value)).field? key =
      if name = key then value.map write else none := by
  cases value <;> simp [optionalField]

@[simp] theorem field?_fieldUnless (key name : String) (omitted : Bool) (value : Json) :
    (object (fieldUnless omitted name value)).field? key =
      if omitted = false ∧ name = key then some value else none := by
  cases omitted <;> simp [fieldUnless]

@[simp] theorem asStructure?_object (names : List String) (fields : List (String × Json)) :
    asStructure? names (object fields) = some (object fields) := rfl

theorem asTagged?_object {kinds : List String} {kind : String} (known : kind ∈ kinds)
    (nested : Bool) (fields : List (String × Json)) :
    asTagged? kinds nested (object (("kind", .string kind) :: fields)) =
      some (kind, object (("kind", .string kind) :: fields)) := by
  simp [asTagged?, asKind?, known]

/-! ## Usable parts -/

@[simp] theorem isUsable_string (value : String) : (string value).isUsable = true := by
  simp [isUsable]

@[simp] theorem isUsable_bool (value : Bool) : (bool value).isUsable = true := by
  simp [isUsable]

@[simp] theorem isUsable_array (items : List Json) :
    (array items).isUsable = areUsable items := rfl

@[simp] theorem isUsable_object (fields : List (String × Json)) :
    (object fields).isUsable = fieldsAreUsable fields := rfl

@[simp] theorem areUsable_map {write : α → Json} (usable : ∀ value, (write value).isUsable = true)
    (values : List α) : areUsable (values.map write) = true := by
  induction values with
  | nil => rfl
  | cons value rest induction => simp [areUsable, usable, induction]

@[simp] theorem fieldsAreUsable_nil : fieldsAreUsable [] = true := rfl

@[simp] theorem fieldsAreUsable_cons (field : String × Json) (rest : List (String × Json)) :
    fieldsAreUsable (field :: rest) = (field.2.isUsable && fieldsAreUsable rest) := rfl

@[simp] theorem fieldsAreUsable_append (fields rest : List (String × Json)) :
    fieldsAreUsable (fields ++ rest) = (fieldsAreUsable fields && fieldsAreUsable rest) := by
  induction fields with
  | nil => simp
  | cons field others induction => simp [induction, Bool.and_assoc]

@[simp] theorem fieldsAreUsable_optionalField {write : α → Json}
    (usable : ∀ value, (write value).isUsable = true) (name : String) (value : Option α) :
    fieldsAreUsable (optionalField name write value) = true := by
  cases value <;> simp [optionalField, usable]

@[simp] theorem fieldsAreUsable_fieldUnless {value : Json} (usable : value.isUsable = true)
    (omitted : Bool) (name : String) :
    fieldsAreUsable (fieldUnless omitted name value) = true := by
  cases omitted <;> simp [fieldUnless, usable]

/-! ## Reading what was written -/

/-- What is written for the value is read as that value again, and is not `null`, which would stand
for no value. -/
structure ReadsBack (read : Json → Option α) (write : α → Json) (value : α) : Prop where
  read_write : read (write value) = some value
  ne_null : write value ≠ .null

/-- The fields of the value are read as that value again, also behind a tag. -/
def FieldsReadBack (read : Json → Option α) (fields : α → List (String × Json)) (value : α) :
    Prop :=
  ∀ tag, read (.object (("kind", tag) :: fields value)) = some value

variable {read : Json → Option α} {write : α → Json} {key : String} {json : Json}

theorem ReadsBack.list {items : List α} (each : ∀ item ∈ items, ReadsBack read write item) :
    ReadsBack (asList? read) (fun items => .array (items.map write)) items where
  read_write := by
    have mapped : ∀ items : List α, (∀ item ∈ items, ReadsBack read write item) →
        (items.map write).mapM read = some items := by
      intro items each
      induction items with
      | nil => rfl
      | cons item rest induction =>
          rcases List.forall_mem_cons.mp each with ⟨first, others⟩
          simp [List.mapM_cons, first.read_write, induction others]
    simp [asList?, asArray?, mapped items each]
  ne_null := by simp

theorem required_eq {value : α} (reads : ReadsBack read write value)
    (found : json.field? key = some (write value)) : json.required read key = some value := by
  rw [required, found, Option.bind_some, reads.read_write]

theorem optional_eq {value : Option α} (reads : ∀ content ∈ value, ReadsBack read write content)
    (found : json.field? key = value.map write) : json.optional read key = some value := by
  cases value with
  | none => simp [optional, found]
  | some content =>
      have back := reads content rfl
      rw [Option.map_some] at found
      unfold optional
      split
      · next missing => simp [missing] at found
      · next null =>
          rw [null] at found
          exact absurd (Option.some.inj found).symm back.ne_null
      · next other _ present =>
          rw [present] at found
          rw [Option.some.inj found, back.read_write, Option.map_some]

theorem defaulted_eq {value fallback : α} (reads : ReadsBack read write value)
    (found : json.field? key = some (write value)) :
    json.defaulted read fallback key = some value := by
  simp [defaulted, found, reads.read_write]

/-- A field with a default may be left out where it holds that. -/
theorem defaulted_eq_of_omits {value fallback : α} {omitted : Bool}
    (omits : omitted = true → value = fallback) (reads : ReadsBack read write value)
    (found : json.field? key = if omitted = false then some (write value) else none) :
    json.defaulted read fallback key = some value := by
  cases omitted with
  | true => simp [defaulted, found, omits rfl]
  | false => exact defaulted_eq reads found

end Json

end EntitySchema
