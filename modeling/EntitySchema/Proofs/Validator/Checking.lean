import Mathlib
import EntitySchema.Proofs.Number.Order
import EntitySchema.Validator
/-!
Which values a validator lets through, and what it says about the others.

What a check rejects is said here in terms of the texts and numbers themselves. A validator makes
the checks that its constraints ask for, no more and no fewer, always in the same order.
-/

namespace EntitySchema

/-! ## What checks reject -/

/-- One unit for each character, and a second one for each beyond the basic plane. -/
def unitCount (text : String) : Nat :=
  text.toList.length + text.toList.countP fun character => 0xFFFF < character.toNat

theorem utf16Length_eq_unitCount (text : String) : utf16Length text.toList = unitCount text := by
  unfold unitCount
  induction text.toList with
  | nil => rfl
  | cons first rest induction =>
      rw [utf16Length, List.foldr_cons, ← utf16Length, induction, List.countP_cons,
        List.length_cons, utf16Size]
      by_cases basic : first.toNat ≤ 0xFFFF
      · simp only [basic, if_true, Nat.not_lt.mpr basic, decide_false, Bool.false_eq_true, if_false]
        omega
      · simp only [basic, if_false, Nat.not_le.mp basic, decide_true, if_true]
        omega

namespace Check

/-- A check rejects a value. Each check concerns values of one kind only, and the bounds themselves
are always allowed. -/
inductive Rejects : Check → Value → Prop
  | minLength {bound : UInt64} {text : String} :
      unitCount text < bound.toNat → Rejects (.minLength bound) (.text text)
  | maxLength {bound : UInt64} {text : String} :
      bound.toNat < unitCount text → Rejects (.maxLength bound) (.text text)
  | minValue {bound number : Number} :
      number.IsBelow bound → Rejects (.minValue bound) (.number number)
  | maxValue {bound number : Number} :
      bound.IsBelow number → Rejects (.maxValue bound) (.number number)
  | integer {number : Number} :
      (¬∃ whole : ℤ, number.value? = some ((whole : ℝ) : EReal)) →
      Rejects .integer (.number number)
  | finite {number : Number} :
      (¬∃ real : ℝ, number.value? = some (real : EReal)) → Rejects .finite (.number number)
  | pattern {text subject : String} {expected : Pattern} :
      expected.isFoundIn subject = false → Rejects (.pattern text expected) (.text subject)
  | dateTime {kind : DateTimeKind} {text : String} :
      kind.accepts text = false → Rejects (.dateTime kind) (.text text)

theorem rejects_of_isViolatedByText {check : Check} {text : String}
    (violated : check.isViolatedByText text = true) : check.Rejects (.text text) := by
  cases check with
  | minLength bound =>
      apply Rejects.minLength
      simpa [isViolatedByText, utf16Length_eq_unitCount] using violated
  | maxLength bound =>
      apply Rejects.maxLength
      simpa [isViolatedByText, utf16Length_eq_unitCount] using violated
  | pattern text expected =>
      apply Rejects.pattern
      simpa [isViolatedByText] using violated
  | dateTime kind =>
      apply Rejects.dateTime
      simpa [isViolatedByText] using violated
  | _ => simp [isViolatedByText] at violated

theorem rejects_of_isViolatedByNumber {check : Check} {number : Number}
    (violated : check.isViolatedByNumber number = true) : check.Rejects (.number number) := by
  cases check with
  | minValue bound => exact .minValue ((Number.lessThan_iff_isBelow _ _).mp violated)
  | maxValue bound => exact .maxValue ((Number.lessThan_iff_isBelow _ _).mp violated)
  | integer =>
      apply Rejects.integer
      rw [← Number.isIntegral_iff]
      simpa [isViolatedByNumber] using violated
  | finite =>
      apply Rejects.finite
      rw [← Number.isFinite_iff]
      simpa [isViolatedByNumber] using violated
  | _ => simp [isViolatedByNumber] at violated

theorem isViolatedBy_iff_rejects (check : Check) (value : Value) :
    check.isViolatedBy value = true ↔ check.Rejects value := by
  constructor
  · intro violated
    cases value with
    | text text => exact rejects_of_isViolatedByText violated
    | number number => exact rejects_of_isViolatedByNumber violated
    | _ => simp [isViolatedBy] at violated
  · intro rejects
    cases rejects with
    | minLength short =>
        simpa [isViolatedBy, isViolatedByText, utf16Length_eq_unitCount] using short
    | maxLength long =>
        simpa [isViolatedBy, isViolatedByText, utf16Length_eq_unitCount] using long
    | minValue below => exact (Number.lessThan_iff_isBelow _ _).mpr below
    | maxValue above => exact (Number.lessThan_iff_isBelow _ _).mpr above
    | integer fractional =>
        rw [← Number.isIntegral_iff] at fractional
        simpa [isViolatedBy, isViolatedByNumber] using fractional
    | finite unbounded =>
        rw [← Number.isFinite_iff] at unbounded
        simpa [isViolatedBy, isViolatedByNumber] using unbounded
    | pattern notFound => simp [isViolatedBy, isViolatedByText, notFound]
    | dateTime notAccepted => simp [isViolatedBy, isViolatedByText, notAccepted]

end Check

/-! ## What constraints ask for -/

def checkOrder : List String :=
  ["min_length", "max_length", "min_value", "max_value", "integer", "finite", "pattern",
    "date_time"]

def Check.rank (check : Check) : Nat := checkOrder.idxOf check.name

namespace Constraints

inductive Asks (constraints : Constraints) : Check → Prop
  | minLength {bound : UInt64} :
      constraints.facets.minLength = some bound → Asks constraints (.minLength bound)
  | maxLength {bound : UInt64} :
      constraints.facets.maxLength = some bound → Asks constraints (.maxLength bound)
  | minValue {bound : Number} :
      constraints.facets.minValue = some bound → Asks constraints (.minValue bound)
  | maxValue {bound : Number} :
      constraints.facets.maxValue = some bound → Asks constraints (.maxValue bound)
  | integer : constraints.isInteger = true → Asks constraints .integer
  | finite : constraints.isFloat = true → Asks constraints .finite
  | pattern {text : String} {expected : Pattern} :
      constraints.facets.pattern = some text → Pattern.ofText? text = some expected →
      Asks constraints (.pattern text expected)
  | dateTime {kind : DateTimeKind} :
      constraints.dateTime = some kind → Asks constraints (.dateTime kind)

def IsEarliestRejection (constraints : Constraints) (value : Value) (check : Check) : Prop :=
  constraints.Asks check ∧ check.Rejects value ∧
    ∀ earlier, constraints.Asks earlier → earlier.rank < check.rank → ¬earlier.Rejects value

def checksWith (constraints : Constraints) (patternChecks : List Check) : List Check :=
  (constraints.facets.minLength.map Check.minLength).toList ++
    (constraints.facets.maxLength.map Check.maxLength).toList ++
    (constraints.facets.minValue.map Check.minValue).toList ++
    (constraints.facets.maxValue.map Check.maxValue).toList ++
    (if constraints.isInteger then [Check.integer] else []) ++
    (if constraints.isFloat then [Check.finite] else []) ++
    patternChecks ++ (constraints.dateTime.map Check.dateTime).toList

variable {constraints : Constraints}

theorem checks?_of_no_pattern (noPattern : constraints.facets.pattern = none) :
    constraints.checks? = some (constraints.checksWith []) := by
  simp [checks?, noPattern, checksWith]

theorem checks?_of_pattern {text : String} (declared : constraints.facets.pattern = some text) :
    constraints.checks? =
      (Pattern.ofText? text).map fun expected =>
        constraints.checksWith [.pattern text expected] := by
  cases read : Pattern.ofText? text <;> simp [checks?, declared, read, checksWith]

theorem checks?_eq_none_iff :
    constraints.checks? = none ↔
      ∃ text, constraints.facets.pattern = some text ∧ Pattern.ofText? text = none := by
  cases declared : constraints.facets.pattern with
  | none => simp [checks?_of_no_pattern declared]
  | some text => simp [checks?_of_pattern declared]

theorem exists_checksWith_of_checks? {checks : List Check}
    (read : constraints.checks? = some checks) :
    ∃ patternChecks, checks = constraints.checksWith patternChecks ∧
      (patternChecks.map Check.name).Sublist ["pattern"] ∧
      ∀ check, check ∈ patternChecks ↔
        ∃ text expected, constraints.facets.pattern = some text ∧
          Pattern.ofText? text = some expected ∧ check = .pattern text expected := by
  cases declared : constraints.facets.pattern with
  | none =>
      rw [checks?_of_no_pattern declared, Option.some.injEq] at read
      exact ⟨[], read.symm, by simp, by simp⟩
  | some text =>
      rw [checks?_of_pattern declared, Option.map_eq_some_iff] at read
      rcases read with ⟨expected, compiled, equal⟩
      exact ⟨[.pattern text expected], equal.symm, by simp [Check.name], by simp [compiled]⟩

/-- The checks made are those that are asked for. -/
theorem mem_iff_asks {checks : List Check} (read : constraints.checks? = some checks)
    (check : Check) : check ∈ checks ↔ constraints.Asks check := by
  rcases exists_checksWith_of_checks? read with ⟨patternChecks, equal, _, ofPattern⟩
  simp only [equal, checksWith, List.mem_append, Option.mem_toList, Option.map_eq_some_iff,
    List.mem_ite_nil_right, List.mem_singleton, ofPattern, or_assoc]
  constructor
  · intro member
    rcases member with ⟨bound, declared, rfl⟩ | ⟨bound, declared, rfl⟩ | ⟨bound, declared, rfl⟩ |
      ⟨bound, declared, rfl⟩ | ⟨integer, rfl⟩ | ⟨float, rfl⟩ |
      ⟨text, expected, declared, compiled, rfl⟩ | ⟨kind, declared, rfl⟩
    · exact .minLength declared
    · exact .maxLength declared
    · exact .minValue declared
    · exact .maxValue declared
    · exact .integer integer
    · exact .finite float
    · exact .pattern declared compiled
    · exact .dateTime declared
  · intro asks
    cases asks <;> simp [*]

theorem map_name_toList_sublist {α : Type} (toCheck : α → Check) {name : String}
    (named : ∀ parameter, (toCheck parameter).name = name) (slot : Option α) :
    ((slot.map toCheck).toList.map Check.name).Sublist [name] := by
  cases slot <;> simp [named]

theorem map_name_ite_sublist (asked : Bool) (check : Check) :
    ((if asked then [check] else []).map Check.name).Sublist [check.name] := by
  cases asked <;> simp

theorem map_name_sublist {checks : List Check} (read : constraints.checks? = some checks) :
    (checks.map Check.name).Sublist checkOrder := by
  rcases exists_checksWith_of_checks? read with ⟨patternChecks, equal, ofPattern, _⟩
  simp only [equal, checksWith, List.map_append]
  have minLength := map_name_toList_sublist Check.minLength (fun _ => rfl)
    constraints.facets.minLength
  have maxLength := map_name_toList_sublist Check.maxLength (fun _ => rfl)
    constraints.facets.maxLength
  have minValue := map_name_toList_sublist Check.minValue (fun _ => rfl)
    constraints.facets.minValue
  have maxValue := map_name_toList_sublist Check.maxValue (fun _ => rfl)
    constraints.facets.maxValue
  have integer := map_name_ite_sublist constraints.isInteger .integer
  have finite := map_name_ite_sublist constraints.isFloat .finite
  have dateTime := map_name_toList_sublist Check.dateTime (fun _ => rfl) constraints.dateTime
  exact ((((((minLength.append maxLength).append minValue).append maxValue).append
    integer).append finite).append ofPattern).append dateTime

/-- The checks are made in the order of their names. -/
theorem pairwise_rank {checks : List Check} (read : constraints.checks? = some checks) :
    checks.Pairwise fun earlier later => earlier.rank < later.rank := by
  have ordered : checkOrder.Pairwise fun earlier later =>
      checkOrder.idxOf earlier < checkOrder.idxOf later := by
    decide
  -- The order of the names carries over to every selection of them.
  have sorted := ordered.sublist (map_name_sublist read)
  rw [List.pairwise_map] at sorted
  exact sorted

theorem checks?_eq_nil_iff : constraints.checks? = some [] ↔ constraints.hasChecks = false := by
  cases declared : constraints.facets.pattern with
  | none =>
      simp [checks?_of_no_pattern declared, checksWith, hasChecks, Facets.isEmpty, declared,
        and_assoc]
  | some text => simp [checks?_of_pattern declared, checksWith, hasChecks, Facets.isEmpty, declared]

/-! ## Building a validator -/

variable {property : String}

theorem validator_eq_error_iff {error : CompileError} :
    constraints.validator property = .error error ↔
      ∃ text, constraints.facets.pattern = some text ∧ Pattern.ofText? text = none ∧
        error = .unlocated (.invalidPattern text none) := by
  constructor
  · intro failed
    unfold validator at failed
    split at failed
    · cases failed
    · cases failed
    · next unreadable =>
        rcases checks?_eq_none_iff.mp unreadable with ⟨text, declared, unread⟩
        simp only [declared, Option.getD_some, Except.error.injEq] at failed
        exact ⟨text, declared, unread, failed.symm⟩
  · intro unreadable
    rcases unreadable with ⟨text, declared, unread, equal⟩
    subst equal
    rw [validator, checks?_eq_none_iff.mpr ⟨text, declared, unread⟩, declared, Option.getD_some]

theorem validator_eq_none_iff :
    constraints.validator property = .ok none ↔ constraints.hasChecks = false := by
  rw [← checks?_eq_nil_iff]
  unfold validator
  cases constraints.checks? with
  | none => simp
  | some made => cases made <;> simp

theorem validator_eq_some_iff {built : Validator} :
    constraints.validator property = .ok (some built) ↔
      built.property = property ∧ constraints.checks? = some built.checks ∧ built.checks ≠ [] := by
  cases built with
  | mk name checks =>
      unfold validator
      cases constraints.checks? with
      | none => simp
      | some made =>
          cases made with
          | nil => simp [eq_comm]
          | cons first rest =>
              simp only [Except.ok.injEq, Option.some.injEq, Validator.mk.injEq]
              constructor
              · intro same
                exact ⟨same.1.symm, same.2, same.2 ▸ List.cons_ne_nil first rest⟩
              · intro same
                exact ⟨same.1.symm, same.2.1⟩

end Constraints

/-! ## Applying a validator -/

/-- In a list in which ranks go up, the first item that passes a test is the one of least rank. -/
theorem find?_eq_some_iff_of_pairwise {α : Type} {rank : α → Nat} {items : List α}
    (sorted : items.Pairwise fun earlier later => rank earlier < rank later) {test : α → Bool}
    {item : α} :
    items.find? test = some item ↔
      item ∈ items ∧ test item = true ∧
        ∀ earlier ∈ items, rank earlier < rank item → test earlier = false := by
  induction items with
  | nil => simp
  | cons first rest induction =>
      rcases List.pairwise_cons.mp sorted with ⟨firstBelow, restSorted⟩
      rw [List.find?_cons]
      cases passed : test first with
      | true =>
          constructor
          · intro equal
            cases equal
            refine ⟨List.mem_cons_self, passed, ?_⟩
            intro earlier member below
            rcases List.mem_cons.mp member with same | inRest
            · subst same
              omega
            · have above := firstBelow earlier inRest
              omega
          · intro isLeast
            rcases isLeast with ⟨member, _, least⟩
            rcases List.mem_cons.mp member with same | inRest
            · rw [same]
            -- The item would have to be above the first one, which passes.
            · have failed := least first List.mem_cons_self (firstBelow item inRest)
              rw [passed] at failed
              cases failed
      | false =>
          simp only [induction restSorted, List.mem_cons, forall_eq_or_imp, passed, implies_true,
            true_and]
          constructor
          · intro isLeast
            exact ⟨Or.inr isLeast.1, isLeast.2⟩
          · intro isLeast
            rcases isLeast with ⟨same | inRest, accepted, least⟩
            · rw [same, passed] at accepted
              cases accepted
            · exact ⟨inRest, accepted, least⟩

namespace Constraints

variable {constraints : Constraints} {built : Validator} {value : Value}

theorem violation?_eq_none_iff (read : constraints.checks? = some built.checks) :
    built.violation? value = none ↔
      ∀ check, constraints.Asks check → ¬check.Rejects value := by
  simp only [Validator.violation?, Option.map_eq_none_iff, List.find?_eq_none, mem_iff_asks read,
    Check.isViolatedBy_iff_rejects]

theorem violation?_eq_some_iff (read : constraints.checks? = some built.checks)
    {violation : Violation} :
    built.violation? value = some violation ↔
      ∃ check, constraints.IsEarliestRejection value check ∧
        violation = { check := check.name,
                      message := built.property ++ " " ++ check.message } := by
  simp only [Validator.violation?, Option.map_eq_some_iff,
    find?_eq_some_iff_of_pairwise (pairwise_rank read), mem_iff_asks read, ← Bool.not_eq_true,
    Check.isViolatedBy_iff_rejects, IsEarliestRejection, Validator.report,
    eq_comm (b := violation)]

/-- A validator lets a value through unless one of the checks asked for rejects it, and reports the
earliest check that does. -/
theorem validator_decides (constraints : Constraints) (property : String) :
    (∀ error, constraints.validator property = .error error ↔
      ∃ text, constraints.facets.pattern = some text ∧ Pattern.ofText? text = none ∧
        error = .unlocated (.invalidPattern text none)) ∧
    (constraints.validator property = .ok none ↔ constraints.hasChecks = false) ∧
    ∀ built, constraints.validator property = .ok (some built) → ∀ value,
      (built.violation? value = none ↔
        ∀ check, constraints.Asks check → ¬check.Rejects value) ∧
      ∀ violation, built.violation? value = some violation ↔
        ∃ check, constraints.IsEarliestRejection value check ∧
          violation = { check := check.name, message := property ++ " " ++ check.message } := by
  refine ⟨fun error => validator_eq_error_iff, validator_eq_none_iff, ?_⟩
  intro built isBuilt value
  rcases validator_eq_some_iff.mp isBuilt with ⟨named, read, _⟩
  rw [← named]
  exact ⟨violation?_eq_none_iff read, fun violation => violation?_eq_some_iff read⟩

def datedCode : Constraints :=
  { facets := { minLength := some 3 }, dateTime := some .plainDate }

/-- A single character beyond the basic plane is too short and no date, and the length counts
first. -/
theorem validator_decides_datedCode :
    datedCode.validator "code" =
      .ok (some { property := "code", checks := [.minLength 3, .dateTime .plainDate] }) ∧
    ∃ check, datedCode.IsEarliestRejection (.text "😀") check ∧
      ({ check := "min_length", message := "code must be at least 3 characters" } : Violation) =
        { check := check.name, message := "code" ++ " " ++ check.message } :=
  ⟨rfl, (((validator_decides datedCode "code").2.2 _ rfl (.text "😀")).2 _).mp
    (by decide +kernel)⟩

end Constraints

end EntitySchema
