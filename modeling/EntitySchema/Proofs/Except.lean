import Mathlib
/-!
When a computation that can fail succeeds.
-/

namespace EntitySchema

variable {ε α β : Type}

def Succeeds (result : Except ε α) : Prop := ∃ value, result = .ok value

@[simp] theorem succeeds_ok (value : α) : Succeeds (.ok value : Except ε α) := ⟨value, rfl⟩

@[simp] theorem not_succeeds_error (error : ε) : ¬Succeeds (.error error : Except ε α) := nofun

@[simp] theorem succeeds_pure (value : α) : Succeeds (pure value : Except ε α) := ⟨value, rfl⟩

@[simp] theorem ok_bind (value : α) (next : α → Except ε β) :
    (Except.ok value >>= next) = next value := rfl

@[simp] theorem error_bind (error : ε) (next : α → Except ε β) :
    ((Except.error error : Except ε α) >>= next) = .error error := rfl

theorem bind_eq_ok_iff {result : Except ε α} {next : α → Except ε β} {value : β} :
    (result >>= next) = .ok value ↔ ∃ middle, result = .ok middle ∧ next middle = .ok value := by
  cases result with
  | error error => simp
  | ok middle => simp

theorem succeeds_bind_iff {result : Except ε α} {next : α → Except ε β} :
    Succeeds (result >>= next) ↔ ∃ middle, result = .ok middle ∧ Succeeds (next middle) := by
  cases result with
  | error error => simp
  | ok middle => simp

@[simp] theorem map_eq_ok_iff {result : Except ε α} {transform : α → β} {value : β} :
    transform <$> result = .ok value ↔
      ∃ middle, result = .ok middle ∧ transform middle = value := by
  cases result with
  | error error => simp [Functor.map, Except.map]
  | ok middle => simp [Functor.map, Except.map]

@[simp] theorem succeeds_map_iff {result : Except ε α} {transform : α → β} :
    Succeeds (transform <$> result) ↔ Succeeds result := by
  simp [Succeeds]

@[simp] theorem mapError_eq_ok_iff {ε' : Type} {result : Except ε α} {transform : ε → ε'}
    {value : α} : result.mapError transform = .ok value ↔ result = .ok value := by
  cases result <;> simp [Except.mapError]

theorem mapM_eq_ok_iff {action : α → Except ε β} {items : List α} {results : List β} :
    items.mapM action = .ok results ↔
      List.Forall₂ (fun item result => action item = .ok result) items results := by
  induction items generalizing results with
  | nil =>
      rw [List.mapM_nil, List.forall₂_nil_left_iff]
      exact ⟨fun equal => (Except.ok.inj equal).symm, fun equal => congrArg Except.ok equal.symm⟩
  | cons item rest induction =>
      rw [List.mapM_cons, bind_eq_ok_iff, List.forall₂_cons_left_iff]
      constructor
      · rintro ⟨first, ofItem, inRest⟩
        rcases bind_eq_ok_iff.mp inRest with ⟨others, ofRest, equal⟩
        cases equal
        exact ⟨first, others, ofItem, induction.mp ofRest, rfl⟩
      · rintro ⟨first, others, ofItem, ofRest, rfl⟩
        exact ⟨first, ofItem, bind_eq_ok_iff.mpr ⟨others, induction.mpr ofRest, rfl⟩⟩

/-- What the action gives for an item holds of every result of a traversal. -/
theorem forall_mem_of_mapM {action : α → Except ε β} {items : List α} {results : List β}
    {holds : β → Prop} (each : ∀ item result, action item = .ok result → holds result)
    (mapped : items.mapM action = .ok results) : ∀ result ∈ results, holds result := by
  have related := mapM_eq_ok_iff.mp mapped
  clear mapped
  induction related with
  | nil => exact List.forall_mem_nil _
  | cons first _ induction => exact List.forall_mem_cons.mpr ⟨each _ _ first, induction⟩

theorem succeeds_mapM_iff {action : α → Except ε β} {items : List α} :
    Succeeds (items.mapM action) ↔ ∀ item ∈ items, Succeeds (action item) := by
  induction items with
  | nil => simp
  | cons item rest induction =>
      rw [List.mapM_cons, succeeds_bind_iff, List.forall_mem_cons, ← induction]
      constructor
      · rintro ⟨first, ofItem, inRest⟩
        rcases succeeds_bind_iff.mp inRest with ⟨others, ofRest, _⟩
        exact ⟨⟨first, ofItem⟩, others, ofRest⟩
      · rintro ⟨⟨first, ofItem⟩, others, ofRest⟩
        exact ⟨first, ofItem, succeeds_bind_iff.mpr ⟨others, ofRest, succeeds_pure _⟩⟩

/-- The results of a traversal are values of the items, each put together with its item. -/
theorem mapM_transform_eq_ok_iff {γ : Type} [Nonempty β] {action : α → Except ε β}
    {transform : α → β → γ} {items : List α} {results : List γ} :
    (items.mapM fun item => do return transform item (← action item)) = .ok results ↔
      ∃ value : α → β, (items.map fun item => transform item (value item)) = results ∧
        ∀ item ∈ items, action item = .ok (value item) := by
  have ofValues : ∀ value : α → β, (∀ item ∈ items, action item = .ok (value item)) →
      (items.mapM fun item => do return transform item (← action item)) =
        .ok (items.map fun item => transform item (value item)) := by
    intro value each
    rw [mapM_eq_ok_iff, List.forall₂_map_right_iff, List.forall₂_same]
    intro item member
    rw [each item member]
    rfl
  constructor
  · intro mapped
    have succeeds := succeeds_mapM_iff.mp ⟨results, mapped⟩
    simp only [bind_pure_comp, succeeds_map_iff] at succeeds
    choose! value each using succeeds
    exact ⟨value, Except.ok.inj ((ofValues value each).symm.trans mapped), each⟩
  · rintro ⟨value, rfl, each⟩
    exact ofValues value each

/-- Results that are kept under a name of their items. -/
theorem mapM_named_eq_ok_iff {γ : Type} [Nonempty β] {action : α → Except ε β} {name : α → γ}
    {items : List α} {results : List (γ × β)} :
    (items.mapM fun item => do return (name item, ← action item)) = .ok results ↔
      ∃ value : α → β, (items.map fun item => (name item, value item)) = results ∧
        ∀ item ∈ items, action item = .ok (value item) :=
  mapM_transform_eq_ok_iff

theorem mapM_eq_ok_iff_exists_map [Nonempty β] {action : α → Except ε β} {items : List α}
    {results : List β} :
    items.mapM action = .ok results ↔
      ∃ value : α → β, items.map value = results ∧
        ∀ item ∈ items, action item = .ok (value item) := by
  have general := @mapM_transform_eq_ok_iff ε α β β _ action (fun _ value => value) items results
  simpa using general

/-! ## Failures -/

theorem bind_eq_error_iff {result : Except ε α} {next : α → Except ε β} {error : ε} :
    (result >>= next) = .error error ↔
      result = .error error ∨ ∃ middle, result = .ok middle ∧ next middle = .error error := by
  cases result with
  | error other => simp
  | ok middle => simp

@[simp] theorem map_eq_error_iff {result : Except ε α} {transform : α → β} {error : ε} :
    transform <$> result = .error error ↔ result = .error error := by
  cases result with
  | error other => simp [Functor.map, Except.map]
  | ok middle => simp [Functor.map, Except.map]

theorem mapError_eq_error_iff {ε' : Type} {result : Except ε α} {transform : ε → ε'} {error : ε'} :
    result.mapError transform = .error error ↔
      ∃ cause, result = .error cause ∧ transform cause = error := by
  cases result <;> simp [Except.mapError]

/-- A traversal fails because of one of the items. -/
theorem exists_error_of_mapM {action : α → Except ε β} {items : List α} {error : ε}
    (failed : items.mapM action = .error error) : ∃ item ∈ items, action item = .error error := by
  induction items with
  | nil => cases failed
  | cons item rest induction =>
      rw [List.mapM_cons, bind_eq_error_iff] at failed
      rcases failed with ofItem | ⟨first, _, inRest⟩
      · exact ⟨item, List.mem_cons_self, ofItem⟩
      · rw [bind_pure_comp, map_eq_error_iff] at inRest
        rcases induction inRest with ⟨later, member, ofLater⟩
        exact ⟨later, List.mem_cons_of_mem _ member, ofLater⟩

/-! ## Results that agree -/

/-- Whenever both succeed, they give the same value. -/
def Agree (left right : Except ε α) : Prop :=
  ∀ first second, left = .ok first → right = .ok second → first = second

theorem Agree.refl (result : Except ε α) : Agree result result := by
  intro first second ofLeft ofRight
  exact Except.ok.inj (ofLeft.symm.trans ofRight)

theorem Agree.bind {left right : Except ε α} {next other : α → Except ε β}
    (each : ∀ first second, left = .ok first → right = .ok second →
      Agree (next first) (other second)) : Agree (left >>= next) (right >>= other) := by
  intro first second ofLeft ofRight
  rcases bind_eq_ok_iff.mp ofLeft with ⟨before, leftOk, nextOk⟩
  rcases bind_eq_ok_iff.mp ofRight with ⟨after, rightOk, otherOk⟩
  exact each before after leftOk rightOk first second nextOk otherOk

theorem Agree.bind_same {result : Except ε α} {next other : α → Except ε β}
    (each : ∀ value, result = .ok value → Agree (next value) (other value)) :
    Agree (result >>= next) (result >>= other) := by
  apply Agree.bind
  intro first second ofLeft ofRight
  rcases Agree.refl result first second ofLeft ofRight with rfl
  exact each first ofLeft

theorem Agree.bind_pure {left right : Except ε α} (agree : Agree left right)
    (transform : α → β) :
    Agree (left >>= fun value => pure (transform value))
      (right >>= fun value => pure (transform value)) := by
  apply Agree.bind
  intro first second ofLeft ofRight
  rcases agree first second ofLeft ofRight with rfl
  exact .refl _

theorem Agree.mapM {action other : α → Except ε β} (items : List α)
    (each : ∀ item ∈ items, Agree (action item) (other item)) :
    Agree (items.mapM action) (items.mapM other) := by
  induction items with
  | nil => exact .refl _
  | cons item rest induction =>
      have inRest := induction fun later member => each later (List.mem_cons_of_mem _ member)
      rw [List.mapM_cons, List.mapM_cons]
      apply Agree.bind
      intro first second ofLeft ofRight
      rcases each item List.mem_cons_self first second ofLeft ofRight with rfl
      exact inRest.bind_pure _

/-! ## Results that carry over -/

def Entails (left right : Except ε α) : Prop := ∀ value, left = .ok value → right = .ok value

theorem Entails.refl (result : Except ε α) : Entails result result := fun _ => id

/-- What comes first may give another value on the right, from which the rest goes on. -/
theorem Entails.bind {γ : Type} {left : Except ε α} {right : Except ε γ}
    {next : α → Except ε β} {other : γ → Except ε β} (transform : α → γ)
    (first : ∀ value, left = .ok value → right = .ok (transform value))
    (each : ∀ value, left = .ok value → Entails (next value) (other (transform value))) :
    Entails (left >>= next) (right >>= other) := by
  intro value ofLeft
  rcases bind_eq_ok_iff.mp ofLeft with ⟨middle, ofFirst, ofNext⟩
  rw [first middle ofFirst, ok_bind]
  exact each middle ofFirst value ofNext

theorem Entails.bind_pure {left right : Except ε α} (entails : Entails left right)
    (transform : α → β) :
    Entails (left >>= fun value => pure (transform value))
      (right >>= fun value => pure (transform value)) :=
  Entails.bind id entails fun _ _ => .refl _

theorem Entails.mapM {γ : Type} {action : α → Except ε β} {other : γ → Except ε β}
    (transform : α → γ) (items : List α)
    (each : ∀ item ∈ items, Entails (action item) (other (transform item))) :
    Entails (items.mapM action) ((items.map transform).mapM other) := by
  intro results mapped
  rw [mapM_eq_ok_iff] at mapped ⊢
  rw [List.forall₂_map_left_iff]
  refine ((List.forall₂_and_left _ _).mpr ⟨fun item member => member, mapped⟩).imp ?_
  intro item result both
  exact each item both.1 result both.2

/-! ## Computations that keep a state -/

section Stateful

variable {σ : Type} {m : Type → Type} [Monad m] [LawfulMonad m]
  {action : ExceptT ε (StateT σ m) α} {state after : σ}

theorem run_bind_of_ok {value : α} (ended : action.run.run state = pure (.ok value, after))
    (next : α → ExceptT ε (StateT σ m) β) :
    (action >>= next).run.run state = (next value).run.run after := by
  rw [ExceptT.run_bind, StateT.run_bind, ended, pure_bind]

theorem run_bind_of_error {error : ε} (ended : action.run.run state = pure (.error error, after))
    (next : α → ExceptT ε (StateT σ m) β) :
    (action >>= next).run.run state = pure (.error error, after) := by
  rw [ExceptT.run_bind, StateT.run_bind, ended, pure_bind]
  rfl

end Stateful

end EntitySchema
