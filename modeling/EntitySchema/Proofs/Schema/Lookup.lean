import Mathlib
import EntitySchema.Proofs.Record
import EntitySchema.Proofs.Schema.Assembly
/-!
Lookups in a schema against its declaration.

A lookup finds the first attribute or index of a name. The declaration is built by insertions, and
declares the last. They agree where the first and the last are declared alike.
-/

namespace EntitySchema

/-! ## The first and the last of a name -/

section Named

variable {α β γ : Type}

def firstNamed? (entries : List (String × α)) (name : String) : Option α :=
  (entries.find? fun entry => entry.1 == name).map Prod.snd

def lastNamed? (entries : List (String × α)) (name : String) : Option α :=
  firstNamed? entries.reverse name

theorem firstNamed?_map (key : γ → String) (value : γ → α) (items : List γ) (name : String) :
    firstNamed? (items.map fun item => (key item, value item)) name =
      (items.find? fun item => key item == name).map value := by
  rw [firstNamed?, List.find?_map, Option.map_map]
  rfl

theorem find?_reverse_eq_none_iff (accepts : α → Bool) (items : List α) :
    items.reverse.find? accepts = none ↔ items.find? accepts = none := by
  simp [List.find?_eq_none]

theorem lastNamed?_eq_none_iff (entries : List (String × α)) (name : String) :
    lastNamed? entries name = none ↔ firstNamed? entries name = none := by
  rw [lastNamed?, firstNamed?, firstNamed?, Option.map_eq_none_iff, Option.map_eq_none_iff]
  exact find?_reverse_eq_none_iff _ entries

/-- What is inserted last under a name stays. -/
theorem get?_ofPairs_map (lower : α → β) (entries : List (String × α)) (name : String) :
    Record.get? (Record.ofPairs (entries.map fun entry => (entry.1, lower entry.2))) name =
      (lastNamed? entries name).map lower := by
  rw [Record.get?_ofPairs, ← List.map_reverse, Record.get?_map, lastNamed?, firstNamed?,
    Option.map_map]
  rfl

/-- The first and the last value of a name are lowered alike if the items that they come from
are. -/
theorem map_lastNamed?_eq_iff (key : γ → String) (value : γ → α) (lower : α → β) (items : List γ)
    (name : String) :
    (lastNamed? (items.map fun item => (key item, value item)) name).map lower =
        (firstNamed? (items.map fun item => (key item, value item)) name).map lower ↔
      ∀ first last, (items.find? fun item => key item == name) = some first →
        (items.reverse.find? fun item => key item == name) = some last →
          lower (value first) = lower (value last) := by
  rw [lastNamed?, ← List.map_reverse, firstNamed?_map, firstNamed?_map]
  have absent := find?_reverse_eq_none_iff (fun item => key item == name) items
  cases ofFirst : items.find? fun item => key item == name with
  | none => simp [absent.mpr ofFirst]
  | some first =>
      cases ofLast : items.reverse.find? fun item => key item == name with
      | none => simp [absent.mp ofLast] at ofFirst
      | some last => simp [eq_comm]

end Named

theorem forall_mem_iff_of_forall₂ {α β : Type} {Related : α → β → Prop} {left : List α}
    {right : List β} {Holds : α → Prop} {HoldsToo : β → Prop}
    (related : List.Forall₂ Related left right)
    (each : ∀ first second, Related first second → (HoldsToo second ↔ Holds first)) :
    (∀ second ∈ right, HoldsToo second) ↔ ∀ first ∈ left, Holds first := by
  induction related with
  | nil => simp
  | cons both _ induction =>
      rw [List.forall_mem_cons, List.forall_mem_cons, each _ _ both, induction]

namespace Schema

/-! ## Entries of the declaration -/

def declaredAttribute? (config : Config) (schema : Schema) (name : String) : Option Value :=
  ((schema.toValue config).field? "attributes").bind fun attributes => attributes.field? name

def declaredIndex? (config : Config) (schema : Schema) (name : String) : Option Value :=
  ((schema.toValue config).field? "indexes").bind fun indexes => indexes.field? name

variable (config : Config) (schema : Schema) (name : String)

theorem declaredAttribute?_eq :
    schema.declaredAttribute? config name =
      (lastNamed? schema.attributes name).map (Attribute.toValue config) :=
  get?_ofPairs_map (Attribute.toValue config) schema.attributes name

theorem declaredIndex?_eq :
    schema.declaredIndex? config name = (lastNamed? schema.indexes name).map Index.toValue :=
  get?_ofPairs_map Index.toValue schema.indexes name

def LookupsAgree : Prop :=
  ∀ name, schema.declaredAttribute? config name =
      (schema.attribute? name).map (Attribute.toValue config) ∧
    schema.declaredIndex? config name = (schema.index? name).map Index.toValue

end Schema

/-! ## Names that are used twice -/

namespace EntityMetadata

/-- The first and the last property of the name that the record declares are declared alike. -/
def AttributesAlike (graph : Graph) (config : Config) (entity : EntityMetadata) (name : String) :
    Prop :=
  ∀ record, graph.get? entity.node = some (.record record) → ∀ first last,
    (record.properties.find? fun property => property.name == name) = some first →
    (record.properties.reverse.find? fun property => property.name == name) = some last →
      ∀ ofFirst ofLast, Attribute.compose graph entity first = .ok ofFirst →
        Attribute.compose graph entity last = .ok ofLast →
          ofFirst.toValue config = ofLast.toValue config

def IndexesAlike (entity : EntityMetadata) (name : String) : Prop :=
  ∀ first last, (entity.indexes.find? fun index => index.name == name) = some first →
    (entity.indexes.reverse.find? fun index => index.name == name) = some last →
      (Schema.indexOf first).toValue = (Schema.indexOf last).toValue

end EntityMetadata

namespace Schema

variable {graph : Graph} {config : Config} {entity : EntityMetadata} {schema : Schema}

theorem declaredAttribute?_eq_lookup_iff (assembled : ofEntity graph config entity = .ok schema)
    (name : String) :
    schema.declaredAttribute? config name =
        (schema.attribute? name).map (Attribute.toValue config) ↔
      entity.AttributesAlike graph config name := by
  rcases exists_attributes_of_ofEntity assembled with
      ⟨record, attributeOf, found, attributes, composed⟩
  change schema.declaredAttribute? config name =
    (firstNamed? schema.attributes name).map (Attribute.toValue config) ↔ _
  rw [declaredAttribute?_eq, attributes, map_lastNamed?_eq_iff]
  constructor
  · intro alike other otherFound first last isFirst isLast ofFirst ofLast composedFirst composedLast
    cases found.symm.trans otherFound
    have firstListed := List.mem_of_find?_eq_some isFirst
    have lastListed := List.mem_reverse.mp (List.mem_of_find?_eq_some isLast)
    cases (composed first firstListed).symm.trans composedFirst
    cases (composed last lastListed).symm.trans composedLast
    exact alike first last isFirst isLast
  · intro alike first last isFirst isLast
    have firstListed := List.mem_of_find?_eq_some isFirst
    have lastListed := List.mem_reverse.mp (List.mem_of_find?_eq_some isLast)
    exact alike record found first last isFirst isLast _ _ (composed first firstListed)
      (composed last lastListed)

theorem declaredIndex?_eq_lookup_iff (assembled : ofEntity graph config entity = .ok schema)
    (name : String) :
    schema.declaredIndex? config name = (schema.index? name).map Index.toValue ↔
      entity.IndexesAlike name := by
  change schema.declaredIndex? config name =
    (firstNamed? schema.indexes name).map Index.toValue ↔ _
  rw [declaredIndex?_eq, indexes_of_ofEntity assembled, map_lastNamed?_eq_iff]
  rfl

/-- The declaration of a compiled schema has an entry for the names that a lookup finds, and the
entry is that of the last attribute or index of its name. Lookups and declarations agree if and only
if no name is used twice for attributes or indexes that are declared differently. -/
theorem lookupsAgree_iff_alike {metadata : Metadata} {artifact : Artifact}
    (compiled : compile graph metadata config = .ok artifact) :
    (∀ schema ∈ artifact.schemas, ∀ name,
      schema.declaredAttribute? config name =
          (lastNamed? schema.attributes name).map (Attribute.toValue config) ∧
        schema.declaredIndex? config name = (lastNamed? schema.indexes name).map Index.toValue ∧
        (schema.declaredAttribute? config name = none ↔ schema.attribute? name = none) ∧
        (schema.declaredIndex? config name = none ↔ schema.index? name = none)) ∧
    ((∀ schema ∈ artifact.schemas, schema.LookupsAgree config) ↔
      ∀ entity ∈ metadata.entities, ∀ name,
        entity.AttributesAlike graph config name ∧ entity.IndexesAlike name) := by
  constructor
  · intro schema _ name
    rw [declaredAttribute?_eq, declaredIndex?_eq, Option.map_eq_none_iff, Option.map_eq_none_iff]
    exact ⟨rfl, rfl, lastNamed?_eq_none_iff schema.attributes name,
      lastNamed?_eq_none_iff schema.indexes name⟩
  · refine forall_mem_iff_of_forall₂ (forall₂_of_compile compiled) ?_
    intro entity schema assembled
    simp only [LookupsAgree, declaredAttribute?_eq_lookup_iff assembled,
      declaredIndex?_eq_lookup_iff assembled]

def twiceNamedGraph : Graph :=
  { types := #[.scalar { name := "string" }, .scalar { name := "boolean" },
      .record { name := "Task", properties := [{ name := "id", type := ⟨0⟩ },
        { name := "id", type := ⟨1⟩ }] }] }

def twiceNamedTask : EntityMetadata := { node := ⟨2⟩, entity := "Task" }

theorem not_lookupsAgree_twiceNamedTask :
    ∃ artifact, compile twiceNamedGraph { entities := [twiceNamedTask] } {} = .ok artifact ∧
      ¬∀ schema ∈ artifact.schemas, schema.LookupsAgree {} := by
  obtain ⟨artifact, compiled⟩ : ∃ artifact,
      compile twiceNamedGraph { entities := [twiceNamedTask] } {} = .ok artifact := ⟨_, rfl⟩
  refine ⟨artifact, compiled, ?_⟩
  rw [(lookupsAgree_iff_alike compiled).2]
  intro alike
  have same := (alike twiceNamedTask List.mem_cons_self "id").1 _ rfl _ _ rfl rfl
    { type := .string, required := true } { type := .boolean, required := true } rfl rfl
  simp [Attribute.toValue, AttributeType.members] at same

end Schema

end EntitySchema
