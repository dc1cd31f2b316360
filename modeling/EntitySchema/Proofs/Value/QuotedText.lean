import Mathlib
import EntitySchema.Proofs.Value.Cursor
import EntitySchema.Text.GeneralCategory
/-!
Quoted text is one token on one line.

Wherever a literal stands in a text, the reader takes it from its first quote to its last one and
gives the text that was quoted. What follows neither changes the token nor is touched by it. No
character of the literal is a control character or ends a line.
-/

namespace EntitySchema

/-! ## The characters of a literal -/

def IsInCategory (name : String) (character : Char) : Prop :=
  ∃ ranges, generalCategory? name = some ranges ∧ ranges.contains character = true

def lineTerminators : List Char := ['\n', '\r', '\u2028', '\u2029']

def StaysOnLine (character : Char) : Prop :=
  ¬IsInCategory "control" character ∧ character ∉ lineTerminators

theorem generalCategory?_control : generalCategory? "control" = some [(0, 0x1F), (0x7F, 0x9F)] := by
  decide +kernel

theorem isInCategory_control_iff (character : Char) :
    IsInCategory "control" character ↔ isControl character = true := by
  simp only [IsInCategory, generalCategory?_control, Option.some.injEq, exists_eq_left', isControl,
    CodeRanges.contains, CodeRanges.containsCode, Bool.or_eq_true, Bool.and_eq_true,
    decide_eq_true_eq]
  split_ifs <;> simp <;> omega

theorem isLineSeparator_iff (character : Char) :
    isLineSeparator character = true ↔ character = '\u2028' ∨ character = '\u2029' := by
  simp only [isLineSeparator, Bool.or_eq_true, beq_iff_eq, ← Char.toNat_inj]
  rfl

/-- What does not stay on its line is what a literal spells by a code point, if not by a letter. -/
theorem staysOnLine_iff (character : Char) :
    StaysOnLine character ↔ (isControl character || isLineSeparator character) = false := by
  rw [StaysOnLine, isInCategory_control_iff, ← not_or, ← Bool.not_eq_true, Bool.or_eq_true,
    isLineSeparator_iff]
  apply not_congr
  simp only [lineTerminators, List.mem_cons, List.not_mem_nil, or_false]
  constructor
  · intro test
    rcases test with control | rfl | rfl | separator
    · exact .inl control
    · exact .inl rfl
    · exact .inl rfl
    · exact .inr separator
  · intro test
    rcases test with control | separator
    · exact .inl control
    · exact .inr (.inr (.inr separator))

instance : DecidablePred StaysOnLine := fun character =>
  decidable_of_iff _ (staysOnLine_iff character).symm

theorem staysOnLine_digitChar : ∀ digit < 16, StaysOnLine (Nat.digitChar digit) := by
  decide

theorem staysOnLine_of_mem_hexDigits4 {value : Nat} {digit : Char}
    (member : digit ∈ hexDigits4 value) : StaysOnLine digit := by
  have each := fun value => staysOnLine_digitChar (value % 16) (Nat.mod_lt _ (by decide))
  simp only [hexDigits4, List.mem_cons, List.not_mem_nil, or_false] at member
  rcases member with rfl | rfl | rfl | rfl <;> exact each _

theorem staysOnLine_of_mem_escapeCharacter {character part : Char}
    (member : part ∈ escapeCharacter character) : StaysOnLine part := by
  have inPair (letter : Char) (plain : StaysOnLine letter) (inPair : part ∈ ['\\', letter]) :
      StaysOnLine part := by
    rcases List.mem_pair.mp inPair with rfl | rfl
    · decide
    · exact plain
  unfold escapeCharacter at member
  split_ifs at member with _ _ _ _ _ escaped
  · exact inPair _ (by decide) member
  · exact inPair _ (by decide) member
  · exact inPair _ (by decide) member
  · exact inPair _ (by decide) member
  · exact inPair _ (by decide) member
  · rcases List.mem_cons.mp member with rfl | inRest
    · decide
    · rcases List.mem_cons.mp inRest with rfl | isDigit
      · decide
      · exact staysOnLine_of_mem_hexDigits4 isDigit
  · rw [List.mem_singleton.mp member]
    exact (staysOnLine_iff character).mpr (Bool.eq_false_of_not_eq_true escaped)

theorem staysOnLine_of_mem_quotedChars {text : List Char} {character : Char}
    (member : character ∈ quotedChars text) : StaysOnLine character := by
  simp only [quotedChars, List.cons_append, List.mem_cons, List.mem_append, List.mem_flatMap,
    List.not_mem_nil, or_false] at member
  rcases member with rfl | ⟨original, _, inEscape⟩ | rfl
  · decide
  · exact staysOnLine_of_mem_escapeCharacter inEscape
  · decide

/-! ## The literal in its place -/

theorem toList_quote (text : String) : (quote text).toList = quotedChars text.toList := by
  simp [quote]

namespace Value

theorem readKey_quotedChars (text rest : List Char) :
    readKey (quotedChars text ++ rest) = .ok (text, rest) := by
  rw [quotedChars_append, readKey, if_pos rfl]
  exact readString_flatMap_escapeCharacter text rest

theorem readValue_quotedChars (depth : Nat) (text rest : List Char) :
    readValue (depth + 1) (quotedChars text ++ rest) = .ok (.text (String.ofList text), rest) := by
  rw [quotedChars_append]
  apply readValue_string
  · rfl
  · exact readString_flatMap_escapeCharacter text rest

namespace Cursor

theorem performs_string_quotedChars {content : List Char} {fuel : Nat} (text rest : List Char)
    (enough : (quotedChars text ++ rest).length < fuel) :
    Performs content (string content fuel) (quotedChars text ++ rest) (.ok text) rest := by
  rw [quotedChars_append] at enough ⊢
  have agrees : Agrees content (string content fuel) _ _ := agrees_string enough
  rw [readString_flatMap_escapeCharacter] at agrees
  exact agrees

end Cursor

/-- In front of a quoted text a name or a value is read as the text, and what follows the literal is
left unread. Seen by bytes, a string that is read from where the literal begins ends where the
literal ends, whatever stands around it. And the literal stays on its line. -/
theorem quote_reads_back (before text rest : String) :
    readKey ((quote text).toList ++ rest.toList) = .ok (text.toList, rest.toList) ∧
    (∀ depth, readValue (depth + 1) ((quote text).toList ++ rest.toList) =
      .ok (.text text, rest.toList)) ∧
    (∀ fuel, (quote text ++ rest).length < fuel →
      ∃ trail, (Cursor.string (before ++ quote text ++ rest).toList fuel).runFrom
          (.startAt before.utf8ByteSize) = some (.ok text.toList, trail) ∧
        trail.position = (before ++ quote text).utf8ByteSize) ∧
    ∀ character ∈ (quote text).toList, StaysOnLine character := by
  refine ⟨?_, ?_, ?_, ?_⟩
  · rw [toList_quote]
    exact readKey_quotedChars text.toList rest.toList
  · intro depth
    rw [toList_quote, readValue_quotedChars, String.ofList_toList]
  · intro fuel enough
    rw [← String.length_toList, String.toList_append, toList_quote] at enough
    rw [utf8ByteSize_eq_utf8Length, utf8ByteSize_eq_utf8Length, String.append_assoc]
    simp only [String.toList_append, toList_quote]
    apply Cursor.Performs.exists_trail
    exact Cursor.performs_string_quotedChars text.toList rest.toList enough
  · intro character member
    rw [toList_quote] at member
    exact staysOnLine_of_mem_quotedChars member

def everyEscape : String := "\"\\\n\r\t\u2028\u2029\u007fé"

theorem quote_reads_back_everyEscape :
    readKey ((quote everyEscape).toList ++ ": 1".toList) =
      .ok (everyEscape.toList, ": 1".toList) ∧
    (quote everyEscape ++ ": 1").length < 40 ∧
    (∃ trail, (Cursor.string ("é, " ++ quote everyEscape ++ ": 1").toList 40).runFrom
        (.startAt 4) = some (.ok everyEscape.toList, trail) ∧ trail.position = 36) ∧
    '\\' ∈ (quote everyEscape).toList ∧ StaysOnLine '\\' := by
  have enough : (quote everyEscape ++ ": 1").length < 40 := by decide +kernel
  have begins : "é, ".utf8ByteSize = 4 := by decide
  have ends : ("é, " ++ quote everyEscape).utf8ByteSize = 36 := by decide +kernel
  have member : '\\' ∈ (quote everyEscape).toList := by decide +kernel
  rcases quote_reads_back "é, " everyEscape ": 1" with ⟨name, _, string, staysOnLine⟩
  have read := string 40 enough
  rw [begins, ends] at read
  exact ⟨name, enough, read, member, staysOnLine _ member⟩

end Value

end EntitySchema
