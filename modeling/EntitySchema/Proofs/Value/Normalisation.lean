import Mathlib
import EntitySchema.Proofs.Number.Overflow
import EntitySchema.Proofs.Value.Acceptance
import EntitySchema.Proofs.Value.RoundTrip
/-!
Reading and then writing normalises text.

Whatever text was read, spelled in whatever way, the value holds no code and no repeated key, and it
can be written unless one of its numbers is spelled by a token that is too large for a double.
-/

namespace EntitySchema

namespace Value

/-! ## Number tokens -/

theorem nextFractional?_eq_some {fractional next : Bool} {character : Char}
    (goesOn : nextFractional? fractional character = some next) :
    isNumberPart character = true ∧
      (next = false → fractional = false ∧ isDigit character = true) := by
  unfold nextFractional? at goesOn
  split_ifs at goesOn with digit mark minus
  · cases goesOn
    simp [isNumberPart, digit]
  · cases goesOn
    rcases mark with rfl | rfl | rfl | rfl <;> simp [isNumberPart]
  · cases goesOn
    simp [isNumberPart, minus]

/-- A token that is not fractional holds digits only. -/
theorem scanNumber_characters {fractional ends : Bool} {text token unread : List Char}
    (scanned : scanNumber fractional text = ((ends, token), unread)) :
    (ends = false → fractional = false) ∧
      ∀ character ∈ token, isNumberPart character = true ∧
        (ends = false → isDigit character = true) := by
  induction text generalizing fractional token with
  | nil =>
      rw [scanNumber_nil] at scanned
      cases scanned
      exact ⟨id, nofun⟩
  | cons first rest induction =>
      cases next : nextFractional? fractional first with
      | none =>
          rw [scanNumber_cons_of_none next] at scanned
          cases scanned
          exact ⟨id, nofun⟩
      | some fractional' =>
          rw [scanNumber_cons_of_some next] at scanned
          cases scanned
          rcases induction rfl with ⟨stays, inRest⟩
          rcases nextFractional?_eq_some next with ⟨part, digit⟩
          refine ⟨fun whole => (digit (stays whole)).1, List.forall_mem_cons.mpr ⟨?_, inRest⟩⟩
          exact ⟨part, fun whole => (digit (stays whole)).2⟩

theorem exists_magnitude {first : Char} {text : List Char} {ends : Bool}
    (numeric : first = '-' ∨ isDigit first = true)
    (scanned : scanSignedNumber (first :: text) = ((ends, first :: text), [])) :
    ∃ negative magnitude, first :: text = withSign negative magnitude ∧
      Decimal.takeSign (first :: text) = (negative, magnitude) ∧
      ∀ character ∈ magnitude, isNumberPart character = true ∧
        (ends = false → isDigit character = true) := by
  by_cases minus : first = '-'
  · subst minus
    rcases tail : scanNumber false text with ⟨⟨tailEnds, token⟩, unread⟩
    rw [scanSignedNumber_minus, tail] at scanned
    cases scanned
    exact ⟨true, _, rfl, rfl, (scanNumber_characters tail).2⟩
  · have digit := numeric.resolve_left minus
    rw [scanSignedNumber_of_ne_minus minus] at scanned
    exact ⟨false, first :: text, rfl, takeSign_withSign ⟨first, text, rfl, digit⟩ false,
      (scanNumber_characters scanned).2⟩

/-- The words for what is not finite hold letters that no number token holds. -/
theorem toLower_ne_of_isNumberPart {character : Char} (part : isNumberPart character = true) :
    character.toLower ≠ 'n' := by
  simp only [isNumberPart, Bool.or_eq_true, beq_iff_eq] at part
  rcases part with ((((digit | rfl) | rfl) | rfl) | rfl) | rfl
  · have range : 48 ≤ character.toNat ∧ character.toNat ≤ 57 := by
      simpa [isDigit, Char.le_def, UInt32.le_iff_toNat_le] using digit
    have notUpper : ¬ (65 ≤ character.toNat ∧ character.toNat ≤ 90) := by
      omega
    intro lower
    simp [Char.toLower, UInt32.le_iff_toNat_le, notUpper] at lower
    simp [lower] at range
  all_goals decide

theorem isFinite_float_iff {token magnitude : List Char} {negative : Bool} {double : Binary64}
    (sign : Decimal.takeSign token = (negative, magnitude))
    (parts : ∀ character ∈ magnitude, isNumberPart character = true)
    (read : Binary64.read? token = some double) :
    ∃ decimal, Decimal.read? magnitude = some decimal ∧
      (double.isFinite = true ↔ decimal.value < Binary64.overflowBound) := by
  unfold Binary64.read? at read
  simp only [sign] at read
  cases found : Decimal.read? magnitude with
  | some decimal =>
      simp only [found, Option.some.injEq] at read
      exact ⟨decimal, rfl, read ▸ Binary64.isFinite_ofDecimal_iff negative decimal⟩
  | none =>
      have notWord : ∀ word : String, 'n' ∈ word.toList →
          String.ofList (magnitude.map Char.toLower) ≠ word := by
        intro word letter equal
        rw [← equal, String.toList_ofList, List.mem_map] at letter
        rcases letter with ⟨character, member, lower⟩
        exact toLower_ne_of_isNumberPart (parts character member) lower
      simp [found, notWord "inf" (by decide), notWord "infinity" (by decide),
        notWord "nan" (by decide)] at read

/-- The whole numbers of 64 bits are far below the limit. -/
theorem isFinite_int_iff {magnitude : List Char} {negative : Bool} {integer : Int64}
    (allDigits : ∀ digit ∈ magnitude, isDigit digit)
    (token : int64OfToken? (withSign negative magnitude) = some integer) :
    ∃ decimal, Decimal.read? magnitude = some decimal ∧
      ((Number.int integer).isFinite = true ↔ decimal.value < Binary64.overflowBound) := by
  have nonempty : magnitude ≠ [] := by
    intro empty
    subst empty
    cases negative <;> cases token
  rw [int64OfToken?_withSign nonempty allDigits] at token
  have small : valueOfDigits magnitude < 2 ^ 64 := by
    have value := int64OfInt?_eq_some token
    have least := integer.le_toInt
    have greatest := integer.toInt_lt
    split at value <;> omega
  refine ⟨_, Decimal.read?_of_digits allDigits nonempty, ?_⟩
  have below : (valueOfDigits magnitude : ℚ) < Binary64.overflowBound :=
    lt_of_lt_of_le (by exact_mod_cast small) Binary64.two_pow_le_overflowBound
  simp [Number.isFinite, Decimal.value, below]

/-- A number token spells a decimal, and it is read as a finite number if and only if that decimal
is not too large. -/
theorem exists_decimal_of_readNumber {first : Char} {text : List Char} {content : Number}
    (numeric : first = '-' ∨ isDigit first = true)
    (read : readNumber (first :: text) = .ok (content, [])) :
    ∃ decimal, Decimal.read? (Decimal.takeSign (first :: text)).2 = some decimal ∧
      (content.isFinite = true ↔ decimal.value < Binary64.overflowBound) := by
  rcases readNumber_eq_ok_iff.mp read with ⟨fractional, token, scanned, value⟩
  rcases scanSignedNumber_split numeric scanned with ⟨tail, rfl, split, scannedToken⟩
  rw [List.append_nil] at split
  subst split
  rcases exists_magnitude numeric scannedToken with ⟨negative, magnitude, signed, sign, parts⟩
  rw [sign]
  rcases numberOfToken?_eq_some value with ⟨integer, notFractional, integral, rfl⟩ |
    ⟨double, readDouble, rfl⟩
  · have allDigits : ∀ digit ∈ magnitude, isDigit digit :=
      fun digit member => (parts digit member).2 notFractional
    rw [signed] at integral
    exact isFinite_int_iff allDigits integral
  · exact isFinite_float_iff sign (fun character member => (parts character member).1) readDouble

/-! ## Spellings inside spellings -/

theorem Separated.exists_infix {α : Type} {SpellsPart : α → List Char → Prop} {parts : List α}
    {text : List Char} (separated : Separated SpellsPart parts text) {part : α}
    (member : part ∈ parts) : ∃ spelling, SpellsPart part spelling ∧ spelling <:+: text := by
  induction separated with
  | none => cases member
  | @last _ before text after _ spells _ =>
      rw [List.mem_singleton.mp member]
      exact ⟨text, spells, before, after, by simp⟩
  | @more _ _ before text after following _ spells _ _ induction =>
      rcases List.mem_cons.mp member with rfl | inRest
      · exact ⟨text, spells, before, after ++ ',' :: following, by simp⟩
      · rcases induction inRest with ⟨spelling, spellsPart, inFollowing⟩
        refine ⟨spelling, spellsPart, inFollowing.trans ?_⟩
        exact ⟨before ++ (text ++ (after ++ [','])), [], by simp⟩

theorem Spells.exists_infix_of_item {items : List Value} {text : List Char}
    (spells : Spells (.list items) text) {item : Value} (member : item ∈ items) :
    ∃ spelling, Spells item spelling ∧ spelling <:+: text := by
  cases spells with
  | word known => simp [wordValue?_eq_some_iff, words] at known
  | @list _ inner separated =>
      rcases separated.exists_infix member with ⟨spelling, spellsItem, inside⟩
      exact ⟨spelling, spellsItem, inside.trans ⟨['['], [']'], by simp⟩⟩

theorem Spells.exists_members {fields : List (String × Value)} {text : List Char}
    (spells : Spells (.record fields) text) :
    ∃ members inner, fields = Record.ofPairs members ∧
      Separated (SpellsMember Spells) members inner ∧ text = '{' :: (inner ++ ['}']) := by
  cases spells with
  | word known => simp [wordValue?_eq_some_iff, words] at known
  | record separated => exact ⟨_, _, rfl, separated, rfl⟩

theorem Spells.exists_infix_of_field {fields : List (String × Value)} {text : List Char}
    (spells : Spells (.record fields) text) {field : String × Value} (member : field ∈ fields) :
    ∃ spelling, Spells field.2 spelling ∧ spelling <:+: text := by
  rcases spells.exists_members with ⟨members, inner, rfl, separated, rfl⟩
  rcases separated.exists_infix (Record.ofPairs_subset members member) with
    ⟨_, spellsMember, inside⟩
  cases spellsMember with
  | @mk _ name afterName beforeValue spelling _ _ _ _ spellsValue =>
      refine ⟨spelling, spellsValue, .trans ?_ (inside.trans ⟨['{'], ['}'], by simp⟩)⟩
      exact ⟨name ++ (afterName ++ ':' :: beforeValue), [], by simp⟩

/-- Every node of a value is spelled somewhere inside a spelling of the value. -/
theorem Spells.exists_infix_of_mem_nodes {value node : Value} {text : List Char}
    (spells : Spells value text) (member : node ∈ value.nodes) :
    ∃ spelling, Spells node spelling ∧ spelling <:+: text := by
  induction value using Value.induction generalizing text with
  | list items induction =>
      rw [nodes_list, List.mem_cons, List.mem_flatMap] at member
      rcases member with rfl | ⟨item, inItems, inItem⟩
      · exact ⟨text, spells, List.infix_rfl⟩
      · rcases spells.exists_infix_of_item inItems with ⟨outer, spellsItem, outerInside⟩
        rcases induction item inItems spellsItem inItem with ⟨spelling, spellsNode, inside⟩
        exact ⟨spelling, spellsNode, inside.trans outerInside⟩
  | record fields induction =>
      rw [nodes_record, List.mem_cons, List.mem_flatMap] at member
      rcases member with rfl | ⟨field, inFields, inField⟩
      · exact ⟨text, spells, List.infix_rfl⟩
      · rcases spells.exists_infix_of_field inFields with ⟨outer, spellsField, outerInside⟩
        rcases induction field inFields spellsField inField with ⟨spelling, spellsNode, inside⟩
        exact ⟨spelling, spellsNode, inside.trans outerInside⟩
  | leaf value leaf =>
      rw [nodes_leaf leaf, List.mem_singleton] at member
      exact ⟨text, member ▸ spells, List.infix_rfl⟩

/-! ## What is spelled -/

theorem not_spells_source {code : String} {text : List Char} : ¬ Spells (.source code) text := by
  intro spells
  cases spells with
  | word known => simp [wordValue?_eq_some_iff, words] at known

theorem Spells.isSourceFree {value : Value} {text : List Char} (spells : Spells value text) :
    value.IsSourceFree := by
  intro code member
  rcases spells.exists_infix_of_mem_nodes member with ⟨_, spellsCode, _⟩
  exact not_spells_source spellsCode

theorem Spells.hasBuiltRecords {value : Value} {text : List Char} (spells : Spells value text) :
    value.HasBuiltRecords := by
  intro fields member
  rcases spells.exists_infix_of_mem_nodes member with ⟨_, spellsRecord, _⟩
  rcases spellsRecord.exists_members with ⟨members, _, sameFields, _⟩
  exact ⟨members, sameFields⟩

/-- The number is read from a token inside the text, and the token spells the decimal. -/
def IsReadFrom (content : Number) (decimal : Decimal) (text : List Char) : Prop :=
  ∃ token, token <:+: text ∧ readNumber token = .ok (content, []) ∧
    Decimal.read? (Decimal.takeSign token).2 = some decimal

theorem Spells.exists_isReadFrom {value : Value} {text : List Char} (spells : Spells value text)
    {content : Number} (member : .number content ∈ value.nodes) :
    ∃ decimal, IsReadFrom content decimal text ∧
      (content.isFinite = true ↔ decimal.value < Binary64.overflowBound) := by
  rcases spells.exists_infix_of_mem_nodes member with ⟨token, spellsNumber, inside⟩
  cases spellsNumber with
  | word known => simp [wordValue?_eq_some_iff, words] at known
  | number numeric read =>
      rcases exists_decimal_of_readNumber numeric read with ⟨decimal, spelled, finite⟩
      exact ⟨decimal, ⟨_, inside, read, spelled⟩, finite⟩

theorem exists_spells_of_read {text : String} {value : Value} (accepted : read text = .ok value) :
    ∃ spelling, Spells value spelling ∧ spelling <:+: text.toList := by
  rcases exists_spells_of_readChars (read_eq_ok_iff.mp accepted) with
    ⟨before, spelling, after, _, spells, _, split⟩
  exact ⟨spelling, spells, before, after, by simp [split]⟩

/-! ## Writing what was read -/

theorem exists_write_iff {value : Value} (sourceFree : value.IsSourceFree) (indent : Nat) :
    (∃ written, write indent value = .ok written) ↔ value.HasFiniteNumbers := by
  constructor
  · intro succeeds
    rcases succeeds with ⟨written, succeeded⟩
    have faultless : value.fault? = none := by
      unfold write at succeeded
      split at succeeded
      · cases succeeded
      · next faultless => exact faultless
    exact ((fault?_eq_none_iff value).mp faultless).1
  · intro finite
    exact ⟨_, write_eq_ok finite (by simp [sourceFree.sources_eq_nil]) indent⟩

/-- A value without code can only fail to be written because of a number. -/
theorem exists_number_of_write_eq_error {value : Value} (sourceFree : value.IsSourceFree)
    {indent : Nat} {fault : WriteFault} (failed : write indent value = .error fault) :
    ∃ content, fault = .nonFinite content ∧ .number content ∈ value.nodes ∧
      content.isFinite = false := by
  have found : value.nodes.findSome? nodeFault? = some fault := by
    rw [← fault?_eq_findSome?_nodes]
    exact write_eq_error_iff.mp failed
  rcases List.exists_of_findSome?_eq_some found with ⟨node, member, ofNode⟩
  cases node with
  | number content =>
      by_cases finite : content.isFinite = true
      · simp [nodeFault?, finite] at ofNode
      · simp only [nodeFault?, finite] at ofNode
        cases ofNode
        exact ⟨content, rfl, member, by simpa using finite⟩
  | source code => exact absurd member (sourceFree code)
  | _ => cases ofNode

/-- Whatever text is read, the value holds no code and no repeated key, and each of its numbers
comes from a token of the text and is finite unless that token is too large. The value can be
written if its numbers are finite, and only for a token that is too large can it not. What is
written reads as an equal value. -/
theorem read_normalises {text : String} {value : Value} (accepted : read text = .ok value) :
    value.IsSourceFree ∧
    (∀ fields, .record fields ∈ value.nodes → (Record.keys fields).Nodup) ∧
    (∀ content, .number content ∈ value.nodes → ∃ decimal,
      IsReadFrom content decimal text.toList ∧
        (content.isFinite = true ↔ decimal.value < Binary64.overflowBound)) ∧
    ∀ indent,
      ((∃ written, write indent value = .ok written) ↔ value.HasFiniteNumbers) ∧
      (∀ written, write indent value = .ok written →
        ∃ same, read written = .ok same ∧ same.equals value = true) ∧
      ∀ fault, write indent value = .error fault → ∃ content decimal,
        fault = .nonFinite content ∧ .number content ∈ value.nodes ∧
          IsReadFrom content decimal text.toList ∧ Binary64.overflowBound ≤ decimal.value := by
  rcases exists_spells_of_read accepted with ⟨spelling, spells, inside⟩
  have sourceFree := spells.isSourceFree
  have tokens : ∀ content, .number content ∈ value.nodes → ∃ decimal,
      IsReadFrom content decimal text.toList ∧
        (content.isFinite = true ↔ decimal.value < Binary64.overflowBound) := by
    intro content member
    rcases spells.exists_isReadFrom member with ⟨decimal, ⟨token, inSpelling, read⟩, finite⟩
    exact ⟨decimal, ⟨token, inSpelling.trans inside, read⟩, finite⟩
  refine ⟨sourceFree, ?_, tokens, fun indent => ⟨exists_write_iff sourceFree indent, ?_, ?_⟩⟩
  · intro fields member
    exact (Record.isBuilt_iff_nodup_keys fields).mp (spells.hasBuiltRecords fields member)
  · intro written succeeded
    have finite := (exists_write_iff sourceFree indent).mp ⟨written, succeeded⟩
    rcases exists_spells_chars value sourceFree finite spells.hasBuiltRecords
      (Style.ofIndent indent) with ⟨same, spellsSame, equal⟩
    rw [write_eq_ok finite (by simp [sourceFree.sources_eq_nil]) indent] at succeeded
    cases succeeded
    exact ⟨same, read_of_spells spellsSame, equal⟩
  · intro fault failed
    rcases exists_number_of_write_eq_error sourceFree failed with
      ⟨content, nonFinite, member, infinite⟩
    rcases tokens content member with ⟨decimal, readFrom, finite⟩
    refine ⟨content, decimal, nonFinite, member, readFrom, ?_⟩
    rw [← not_lt, ← finite, infinite]
    exact Bool.false_ne_true

/-- Two tokens are too large here, but one of them is lost with the first value of a key that is
given twice. -/
def looseText : String := "\x7b a: 1e999, \"a\": [007, ], b: -1e999 \x7d"

def looseValue : Value :=
  .record [("a", .list [.number (.int 7)]), ("b", .number (.float (.infinite true)))]

theorem read_looseText : read looseText = .ok looseValue := by
  cbv

theorem read_normalises_looseText :
    looseValue.IsSourceFree ∧
    (∀ fields, .record fields ∈ looseValue.nodes → (Record.keys fields).Nodup) ∧
    (∀ content, .number content ∈ looseValue.nodes → ∃ decimal,
      IsReadFrom content decimal looseText.toList ∧
        (content.isFinite = true ↔ decimal.value < Binary64.overflowBound)) ∧
    ∀ indent,
      ((∃ written, write indent looseValue = .ok written) ↔ looseValue.HasFiniteNumbers) ∧
      (∀ written, write indent looseValue = .ok written →
        ∃ same, read written = .ok same ∧ same.equals looseValue = true) ∧
      ∀ fault, write indent looseValue = .error fault → ∃ content decimal,
        fault = .nonFinite content ∧ .number content ∈ looseValue.nodes ∧
          IsReadFrom content decimal looseText.toList ∧
            Binary64.overflowBound ≤ decimal.value :=
  read_normalises read_looseText

end Value

end EntitySchema
