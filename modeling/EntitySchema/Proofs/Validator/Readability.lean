import Mathlib
import EntitySchema.Proofs.Number.Text
import EntitySchema.Proofs.Validator.Checking
import EntitySchema.Proofs.Value.StringToken
/-!
The source of a validator can be read in only one way.

Every part of the source shows where it ends: the fixed openings of guards are no prefixes of each
other, bounds end before a closing parenthesis, and quoted texts end at their closing quote,
whatever they hold. So the source tells the property and the checks, up to how the bounds of values
are represented.
-/

namespace EntitySchema

/-! ## Quoted texts -/

theorem quotedChars_append_inj {left right rest other : List Char}
    (equal : quotedChars left ++ rest = quotedChars right ++ other) :
    left = right ∧ rest = other := by
  rw [Value.quotedChars_append, Value.quotedChars_append] at equal
  have opened := (List.cons.inj equal).2
  have read := Value.readString_flatMap_escapeCharacter left rest
  rw [opened, Value.readString_flatMap_escapeCharacter, Except.ok.injEq, Prod.mk.injEq] at read
  exact ⟨read.1.symm, read.2.symm⟩

/-! ## Guards -/

/-- How a guard starts. Points in time share one guard, with or without an offset. -/
inductive GuardForm where
  | minLength
  | maxLength
  | minValue
  | maxValue
  | integer
  | finite
  | pattern
  | timestamp
  | plainDate
  | plainTime
  deriving DecidableEq

namespace GuardForm

def opening : GuardForm → String
  | .minLength => Check.ofTextGuard "value.length < "
  | .maxLength => Check.ofTextGuard "value.length > "
  | .minValue => Check.ofNumberGuard "value < "
  | .maxValue => Check.ofNumberGuard "value > "
  | .integer => Check.guard .integer
  | .finite => Check.guard .finite
  | .pattern => Check.ofTextGuard "!new RegExp("
  | .timestamp => Check.guard (.dateTime .utc)
  | .plainDate => Check.guard (.dateTime .plainDate)
  | .plainTime => Check.guard (.dateTime .plainTime)

def closing : GuardForm → String
  | .pattern => ").test(value)"
  | _ => ""

theorem toList_closing {form : GuardForm} (notPattern : form ≠ .pattern) :
    form.closing.toList = [] := by
  cases form with
  | pattern => exact absurd rfl notPattern
  | _ => rfl

def all : List GuardForm :=
  [.minLength, .maxLength, .minValue, .maxValue, .integer, .finite, .pattern, .timestamp,
    .plainDate, .plainTime]

theorem mem_all (form : GuardForm) : form ∈ all := by
  cases form <;> decide

theorem eq_of_opening_isPrefixOf (left right : GuardForm)
    (shorter : left.opening.toList <+: right.opening.toList) : left = right := by
  have prefixFree : ∀ left ∈ all, ∀ right ∈ all,
      left.opening.toList <+: right.opening.toList → left = right := by
    decide +kernel
  exact prefixFree left (mem_all left) right (mem_all right) shorter

theorem opening_append_inj {left right : GuardForm} {rest other : List Char}
    (equal : left.opening.toList ++ rest = right.opening.toList ++ other) :
    left = right ∧ rest = other := by
  have same : left = right := by
    rcases List.prefix_or_prefix_of_prefix (List.prefix_append _ rest)
      (equal ▸ List.prefix_append _ other) with shorter | longer
    · exact eq_of_opening_isPrefixOf left right shorter
    · exact (eq_of_opening_isPrefixOf right left longer).symm
  subst same
  exact ⟨rfl, List.append_cancel_left equal⟩

end GuardForm

namespace Check

/-- A guard is spelled in a form, with a parameter as it stands in the text. -/
inductive IsSpelled : Check → GuardForm → List Char → Prop
  | minLength {bound : UInt64} {parameter : List Char} :
      decimalDigits bound.toNat = parameter → IsSpelled (.minLength bound) .minLength parameter
  | maxLength {bound : UInt64} {parameter : List Char} :
      decimalDigits bound.toNat = parameter → IsSpelled (.maxLength bound) .maxLength parameter
  | minValue {bound : Number} {parameter : List Char} :
      bound.chars = parameter → IsSpelled (.minValue bound) .minValue parameter
  | maxValue {bound : Number} {parameter : List Char} :
      bound.chars = parameter → IsSpelled (.maxValue bound) .maxValue parameter
  | integer : IsSpelled .integer .integer []
  | finite : IsSpelled .finite .finite []
  | pattern {text : String} {expected : Pattern} {parameter : List Char} :
      quotedChars text.toList = parameter → IsSpelled (.pattern text expected) .pattern parameter
  | utc : IsSpelled (.dateTime .utc) .timestamp []
  | offset : IsSpelled (.dateTime .offset) .timestamp []
  | plainDate : IsSpelled (.dateTime .plainDate) .plainDate []
  | plainTime : IsSpelled (.dateTime .plainTime) .plainTime []

theorem exists_isSpelled (check : Check) : ∃ form parameter, IsSpelled check form parameter := by
  cases check with
  | minLength bound => exact ⟨_, _, .minLength rfl⟩
  | maxLength bound => exact ⟨_, _, .maxLength rfl⟩
  | minValue bound => exact ⟨_, _, .minValue rfl⟩
  | maxValue bound => exact ⟨_, _, .maxValue rfl⟩
  | integer => exact ⟨_, _, .integer⟩
  | finite => exact ⟨_, _, .finite⟩
  | pattern text expected => exact ⟨_, _, .pattern rfl⟩
  | dateTime kind =>
      cases kind with
      | utc => exact ⟨_, _, .utc⟩
      | offset => exact ⟨_, _, .offset⟩
      | plainDate => exact ⟨_, _, .plainDate⟩
      | plainTime => exact ⟨_, _, .plainTime⟩

theorem toList_ofTextGuard_append (test parameter : String) :
    (ofTextGuard (test ++ parameter)).toList = (ofTextGuard test).toList ++ parameter.toList := by
  rw [← String.toList_append]
  exact congrArg String.toList String.append_assoc.symm

theorem toList_ofNumberGuard_append (test parameter : String) :
    (ofNumberGuard (test ++ parameter)).toList =
      (ofNumberGuard test).toList ++ parameter.toList := by
  rw [← String.toList_append]
  exact congrArg String.toList String.append_assoc.symm

theorem toList_repr (value : Nat) : (Nat.repr value).toList = decimalDigits value := by
  simp [decimalDigits]

theorem toList_text (number : Number) : number.text.toList = number.chars := by
  simp [Number.text]

theorem IsSpelled.toList_guard {check : Check} {form : GuardForm} {parameter : List Char}
    (spelled : IsSpelled check form parameter) :
    check.guard.toList = form.opening.toList ++ (parameter ++ form.closing.toList) := by
  cases spelled with
  | @minLength bound _ digits =>
      rw [← digits, ← toList_repr, GuardForm.toList_closing (by decide), List.append_nil]
      exact toList_ofTextGuard_append "value.length < " (Nat.repr bound.toNat)
  | @maxLength bound _ digits =>
      rw [← digits, ← toList_repr, GuardForm.toList_closing (by decide), List.append_nil]
      exact toList_ofTextGuard_append "value.length > " (Nat.repr bound.toNat)
  | @minValue bound _ chars =>
      rw [← chars, ← toList_text, GuardForm.toList_closing (by decide), List.append_nil]
      exact toList_ofNumberGuard_append "value < " bound.text
  | @maxValue bound _ chars =>
      rw [← chars, ← toList_text, GuardForm.toList_closing (by decide), List.append_nil]
      exact toList_ofNumberGuard_append "value > " bound.text
  | @pattern text _ _ quoted =>
      have quoteChars : (quote text).toList = parameter := by simp [quote, quoted]
      have opened := toList_ofTextGuard_append "!new RegExp(" (quote text)
      have closed := toList_ofTextGuard_append ("!new RegExp(" ++ quote text) ").test(value)"
      rw [opened, quoteChars, List.append_assoc] at closed
      exact closed
  | _ =>
      rw [List.nil_append, GuardForm.toList_closing (by decide), List.append_nil]
      rfl

/-- A parameter is either a quoted text or ends before the next closing parenthesis. -/
theorem IsSpelled.parameter_cases {check : Check} {form : GuardForm} {parameter : List Char}
    (spelled : IsSpelled check form parameter) :
    (∃ text, quotedChars text = parameter ∧ form = .pattern) ∨
      (')' ∉ parameter ∧ form.closing.toList = []) := by
  have freeOfDigits (value : Nat) : ')' ∉ decimalDigits value := by
    intro member
    cases isDigit_of_mem_decimalDigits member
  have freeOfChars (bound : Number) : ')' ∉ bound.chars := by
    intro member
    cases Number.isNumeralPart_of_mem_chars _ member
  cases spelled with
  | minLength digits => exact Or.inr ⟨digits ▸ freeOfDigits _, rfl⟩
  | maxLength digits => exact Or.inr ⟨digits ▸ freeOfDigits _, rfl⟩
  | minValue chars => exact Or.inr ⟨chars ▸ freeOfChars _, rfl⟩
  | maxValue chars => exact Or.inr ⟨chars ▸ freeOfChars _, rfl⟩
  | pattern quoted => exact Or.inl ⟨_, quoted, rfl⟩
  | _ => exact Or.inr ⟨List.not_mem_nil, rfl⟩

theorem parameter_append_inj {left right : Check} {form : GuardForm}
    {parameter otherParameter rest other : List Char} (spelled : IsSpelled left form parameter)
    (otherSpelled : IsSpelled right form otherParameter)
    (equal : parameter ++ (form.closing.toList ++ ')' :: rest) =
      otherParameter ++ (form.closing.toList ++ ')' :: other)) :
    parameter = otherParameter ∧ rest = other := by
  rcases spelled.parameter_cases with ⟨text, quoted, isPattern⟩ | ⟨free, noClosing⟩
  · rcases otherSpelled.parameter_cases with ⟨otherText, otherQuoted, _⟩ | ⟨_, noClosing⟩
    · subst quoted otherQuoted
      rcases quotedChars_append_inj equal with ⟨sameText, sameRest⟩
      exact ⟨congrArg quotedChars sameText, (List.cons.inj (List.append_cancel_left sameRest)).2⟩
    · rw [isPattern] at noClosing
      cases noClosing
  · rcases otherSpelled.parameter_cases with ⟨_, _, isPattern⟩ | ⟨otherFree, _⟩
    · rw [isPattern] at noClosing
      cases noClosing
    · rw [noClosing, List.nil_append, List.nil_append] at equal
      exact run_and_rest_of_append_stop free otherFree equal

/-! ## Checks -/

/-- Checks of one name with the same parameters. The bounds of values may be different numbers of
the same text. -/
inductive Alike : Check → Check → Prop
  | minLength (bound : UInt64) : Alike (.minLength bound) (.minLength bound)
  | maxLength (bound : UInt64) : Alike (.maxLength bound) (.maxLength bound)
  | minValue {left right : Number} :
      left.text = right.text → Alike (.minValue left) (.minValue right)
  | maxValue {left right : Number} :
      left.text = right.text → Alike (.maxValue left) (.maxValue right)
  | integer : Alike .integer .integer
  | finite : Alike .finite .finite
  | pattern (text : String) (left right : Pattern) :
      Alike (.pattern text left) (.pattern text right)
  | dateTime (kind : DateTimeKind) : Alike (.dateTime kind) (.dateTime kind)

theorem Alike.name_eq {left right : Check} (alike : Alike left right) :
    left.name = right.name := by
  cases alike <;> rfl

theorem Alike.message_eq {left right : Check} (alike : Alike left right) :
    left.message = right.message := by
  cases alike with
  | minValue sameText => exact congrArg ("must be at least " ++ ·) sameText
  | maxValue sameText => exact congrArg ("must be at most " ++ ·) sameText
  | _ => rfl

theorem Alike.guard_eq {left right : Check} (alike : Alike left right) :
    left.guard = right.guard := by
  cases alike with
  | minValue sameText => exact congrArg (fun text => ofNumberGuard ("value < " ++ text)) sameText
  | maxValue sameText => exact congrArg (fun text => ofNumberGuard ("value > " ++ text)) sameText
  | _ => rfl

/-- What a guard does not tell apart: the two sorts of points in time. -/
def AreTimestamps (left right : Check) : Prop :=
  (left = .dateTime .utc ∧ right = .dateTime .offset) ∨
    (left = .dateTime .offset ∧ right = .dateTime .utc)

theorem bound_eq_of_digits_eq {left right : UInt64}
    (same : decimalDigits left.toNat = decimalDigits right.toNat) : left = right := by
  have values := congrArg valueOfDigits same
  rw [valueOfDigits_decimalDigits, valueOfDigits_decimalDigits] at values
  exact UInt64.toNat_inj.mp values

theorem alike_or_areTimestamps {left right : Check} {form : GuardForm} {parameter : List Char}
    (spelled : IsSpelled left form parameter) (otherSpelled : IsSpelled right form parameter) :
    Alike left right ∨ AreTimestamps left right := by
  -- The form leaves one constructor for the other check, except for points in time.
  cases spelled with
  | minLength digits =>
      cases otherSpelled with
      | minLength otherDigits =>
          rw [bound_eq_of_digits_eq (digits.trans otherDigits.symm)]
          exact Or.inl (.minLength _)
  | maxLength digits =>
      cases otherSpelled with
      | maxLength otherDigits =>
          rw [bound_eq_of_digits_eq (digits.trans otherDigits.symm)]
          exact Or.inl (.maxLength _)
  | minValue chars =>
      cases otherSpelled with
      | minValue otherChars =>
          exact Or.inl (.minValue (congrArg String.ofList (chars.trans otherChars.symm)))
  | maxValue chars =>
      cases otherSpelled with
      | maxValue otherChars =>
          exact Or.inl (.maxValue (congrArg String.ofList (chars.trans otherChars.symm)))
  | pattern quoted =>
      cases otherSpelled with
      | pattern otherQuoted =>
          have same : _ ++ [] = _ ++ [] := congrArg (· ++ []) (quoted.trans otherQuoted.symm)
          rw [String.toList_inj.mp (quotedChars_append_inj same).1]
          exact Or.inl (.pattern _ _ _)
  | integer =>
      cases otherSpelled
      exact Or.inl .integer
  | finite =>
      cases otherSpelled
      exact Or.inl .finite
  | utc =>
      cases otherSpelled with
      | utc => exact Or.inl (.dateTime .utc)
      | offset => exact Or.inr (Or.inl ⟨rfl, rfl⟩)
  | offset =>
      cases otherSpelled with
      | utc => exact Or.inr (Or.inr ⟨rfl, rfl⟩)
      | offset => exact Or.inl (.dateTime .offset)
  | plainDate =>
      cases otherSpelled
      exact Or.inl (.dateTime .plainDate)
  | plainTime =>
      cases otherSpelled
      exact Or.inl (.dateTime .plainTime)

/-- A guard in parentheses ends where it seems to. -/
theorem guard_append_inj {left right : Check} {rest other : List Char}
    (equal : left.guard.toList ++ ')' :: rest = right.guard.toList ++ ')' :: other) :
    (Alike left right ∨ AreTimestamps left right) ∧ rest = other := by
  rcases left.exists_isSpelled with ⟨form, parameter, spelled⟩
  rcases right.exists_isSpelled with ⟨otherForm, otherParameter, otherSpelled⟩
  rw [spelled.toList_guard, otherSpelled.toList_guard] at equal
  simp only [List.append_assoc] at equal
  rcases GuardForm.opening_append_inj equal with ⟨sameForm, behind⟩
  subst sameForm
  rcases parameter_append_inj spelled otherSpelled behind with ⟨sameParameter, sameRest⟩
  subst sameParameter
  exact ⟨alike_or_areTimestamps spelled otherSpelled, sameRest⟩

end Check

/-! ## Clauses -/

namespace Validator

/-- The messages of the two sorts of points in time end differently, whatever the properties are
called. -/
theorem report_utc_ne_report_offset (property other : String) :
    report property (.dateTime .utc) ≠ report other (.dateTime .offset) := by
  intro equal
  have texts : property ++ " " ++ "must be a valid UTC date-time" =
      other ++ " " ++ "must be a valid date-time with offset" := equal
  have ends := congrArg (fun text => text.toList.getLast?) texts
  simp at ends

/-- Where the guards leave two checks open, the messages decide. -/
theorem alike_of_report_eq {property other : String} {left right : Check}
    (sameGuard : Check.Alike left right ∨ Check.AreTimestamps left right)
    (sameReport : report property left = report other right) :
    property = other ∧ Check.Alike left right := by
  rcases sameGuard with alike | ⟨rfl, rfl⟩ | ⟨rfl, rfl⟩
  · rw [report, report, alike.message_eq] at sameReport
    exact ⟨by simpa using sameReport, alike⟩
  · exact absurd sameReport (report_utc_ne_report_offset property other)
  · exact absurd sameReport.symm (report_utc_ne_report_offset other property)

theorem toList_clause (property : String) (check : Check) :
    (clause property check).toList =
      "if (".toList ++ (check.guard.toList ++ ')' :: (" \x7b throw new Error(".toList ++
        (quotedChars (report property check).toList ++ "); \x7d ".toList))) := by
  simp [clause, quote]

theorem clause_append_inj {property otherProperty : String} {left right : Check}
    {rest other : List Char}
    (equal : (clause property left).toList ++ rest = (clause otherProperty right).toList ++ other) :
    property = otherProperty ∧ Check.Alike left right ∧ rest = other := by
  simp only [toList_clause, List.append_assoc, List.cons_append] at equal
  rcases Check.guard_append_inj (List.append_cancel_left equal) with ⟨sameGuard, thrown⟩
  rcases quotedChars_append_inj (List.append_cancel_left thrown) with ⟨sameReport, closed⟩
  rcases alike_of_report_eq sameGuard (String.toList_inj.mp sameReport) with ⟨sameName, alike⟩
  exact ⟨sameName, alike, List.append_cancel_left closed⟩

theorem clause_eq_of_alike (property : String) {left right : Check}
    (alike : Check.Alike left right) : clause property left = clause property right := by
  rw [clause, clause, report, report, alike.guard_eq, alike.message_eq]

/-! ## Validators -/

theorem toList_source (validator : Validator) :
    validator.source.toList =
      "(value) => \x7b ".toList ++
        ((validator.checks.flatMap fun check => (clause validator.property check).toList) ++
          "return true; \x7d".toList) := by
  unfold source
  simp only [String.toList_append, String.toList_join, List.flatMap_map, List.append_assoc]

/-- No clause can be taken for the end of the source, so the clauses match one by one. -/
theorem forall₂_of_clauses_eq {property other : String} {left right : List Check}
    (equal : (left.flatMap fun check => (clause property check).toList) ++
        "return true; \x7d".toList =
      (right.flatMap fun check => (clause other check).toList) ++ "return true; \x7d".toList) :
    List.Forall₂ (fun check otherCheck => property = other ∧ Check.Alike check otherCheck)
      left right := by
  have notEnd (name : String) (check : Check) (rest : List Char) :
      "return true; \x7d".toList ≠ (clause name check).toList ++ rest := by
    rw [toList_clause]
    simp
  induction left generalizing right with
  | nil =>
      cases right with
      | nil => exact .nil
      | cons check rest =>
          rw [List.flatMap_nil, List.nil_append, List.flatMap_cons, List.append_assoc] at equal
          exact absurd equal (notEnd other check _)
  | cons check rest induction =>
      cases right with
      | nil =>
          rw [List.flatMap_nil, List.nil_append, List.flatMap_cons, List.append_assoc] at equal
          exact absurd equal.symm (notEnd property check _)
      | cons otherCheck otherRest =>
          rw [List.flatMap_cons, List.flatMap_cons, List.append_assoc, List.append_assoc] at equal
          rcases clause_append_inj equal with ⟨sameName, alike, behind⟩
          exact .cons ⟨sameName, alike⟩ (induction behind)

theorem map_eq_of_alike {β : Type} {toText : Check → β}
    (each : ∀ check other, Check.Alike check other → toText check = toText other)
    {left right : List Check} (alike : List.Forall₂ Check.Alike left right) :
    left.map toText = right.map toText := by
  induction alike with
  | nil => rfl
  | cons first _ induction => rw [List.map_cons, List.map_cons, each _ _ first, induction]

theorem source_eq_iff {left right : Validator} (nonempty : left.checks ≠ []) :
    left.source = right.source ↔
      left.property = right.property ∧ List.Forall₂ Check.Alike left.checks right.checks := by
  constructor
  · intro equal
    have texts := congrArg String.toList equal
    rw [toList_source, toList_source] at texts
    have matched := forall₂_of_clauses_eq (List.append_cancel_left texts)
    refine ⟨?_, matched.imp fun _ _ both => both.2⟩
    rcases List.exists_cons_of_ne_nil nonempty with ⟨first, rest, split⟩
    rw [split, List.forall₂_cons_left_iff] at matched
    rcases matched with ⟨_, _, both, _⟩
    exact both.1
  · intro same
    have sameClauses := map_eq_of_alike (fun _ _ => clause_eq_of_alike right.property) same.2
    unfold source
    rw [same.1, sameClauses]

/-- Validators have the same source exactly if they make the same checks of the same property. -/
theorem source_eq_iff_alike {constraints others : Constraints} {property otherProperty : String}
    {left right : Validator} (built : constraints.validator property = .ok (some left))
    (otherBuilt : others.validator otherProperty = .ok (some right)) :
    left.source = right.source ↔
      property = otherProperty ∧ left.checks.map Check.name = right.checks.map Check.name ∧
        List.Forall₂ Check.Alike left.checks right.checks := by
  rcases Constraints.validator_eq_some_iff.mp built with ⟨named, _, nonempty⟩
  rcases Constraints.validator_eq_some_iff.mp otherBuilt with ⟨otherNamed, _, _⟩
  rw [source_eq_iff nonempty, named, otherNamed]
  constructor
  · intro same
    exact ⟨same.1, map_eq_of_alike (fun _ _ alike => alike.name_eq) same.2, same.2⟩
  · intro same
    exact ⟨same.1, same.2.2⟩

def floors (bound : Number) : Constraints :=
  { facets := { minLength := some 1, minValue := some bound, pattern := some "\"\\);" },
    isInteger := true }

def floorValidator (property : String) (bound : Number) (pattern : Pattern) : Validator :=
  { property, checks := [.minLength 1, .minValue bound, .integer, .pattern "\"\\);" pattern] }

/-- Quoted carelessly, the name would end its clause and begin another. -/
def clauseName : String :=
  "n must be an integer\"); \x7d if (typeof value === \"number\" && value < 0) \x7b " ++
    "throw new Error(\"n"

/-- The two zeros are written alike, so their validators are. A name that imitates the clauses still
gives a validator of its own. -/
theorem source_eq_iff_alike_floors :
    ∃ pattern,
      (floors (.int 0)).validator clauseName =
        .ok (some (floorValidator clauseName (.int 0) pattern)) ∧
      (floors (.float .zero)).validator clauseName =
        .ok (some (floorValidator clauseName (.float .zero) pattern)) ∧
      (floors (.int 0)).validator "n" = .ok (some (floorValidator "n" (.int 0) pattern)) ∧
      (floorValidator clauseName (.int 0) pattern).source =
        (floorValidator clauseName (.float .zero) pattern).source ∧
      (floorValidator clauseName (.int 0) pattern).source ≠
        (floorValidator "n" (.int 0) pattern).source := by
  have sameText : (Number.int 0).text = (Number.float .zero).text := by decide +kernel
  have readable : (Pattern.ofText? "\"\\);").isSome = true := by decide +kernel
  have otherName : clauseName ≠ "n" := by decide +kernel
  rcases Option.isSome_iff_exists.mp readable with ⟨pattern, read⟩
  have built (bound : Number) (property : String) :
      (floors bound).validator property = .ok (some (floorValidator property bound pattern)) := by
    simp [Constraints.validator, Constraints.checks?, floors, floorValidator, read]
  refine ⟨pattern, built _ _, built _ _, built _ _, ?_, ?_⟩
  · apply (source_eq_iff_alike (built _ _) (built _ _)).mpr
    exact ⟨rfl, rfl, .cons (.minLength 1) (.cons (.minValue sameText) (.cons .integer
      (.cons (.pattern _ _ _) .nil)))⟩
  · intro same
    exact otherName ((source_eq_iff_alike (built _ _) (built _ _)).mp same).1

end Validator

end EntitySchema
