import Mathlib
import EntitySchema.Proofs.Value.NumberToken
import EntitySchema.Proofs.Value.StringToken
/-!
The grammar of literal expressions, and that the reader takes every text that the grammar derives.

A list or a record is spelled by its items or members with commas between them. White space may
stand around every token, and one more comma behind the last item or member.
-/

namespace EntitySchema

def IsBlankRun (text : List Char) : Prop := ∀ character ∈ text, isBlank character = true

@[simp] theorem isBlankRun_nil : IsBlankRun [] := by
  simp [IsBlankRun]

@[simp] theorem isBlankRun_cons (first : Char) (rest : List Char) :
    IsBlankRun (first :: rest) ↔ isBlank first = true ∧ IsBlankRun rest := by
  simp [IsBlankRun]

theorem isBlankRun_append {before after : List Char} (blankBefore : IsBlankRun before)
    (blankAfter : IsBlankRun after) : IsBlankRun (before ++ after) :=
  List.forall_mem_append.mpr ⟨blankBefore, blankAfter⟩

theorem skipBlank_append {before text : List Char} (blank : IsBlankRun before)
    (stops : StopsAt isBlank text) : skipBlank (before ++ text) = text :=
  dropWhile_append_of_stopsAt blank stops

namespace Value

/-! ## Spellings -/

/-- The spellings of a sequence of parts: commas between them, and perhaps one behind the last. -/
inductive Separated {α : Type} (SpellsPart : α → List Char → Prop) : List α → List Char → Prop
  | none {blank : List Char} : IsBlankRun blank → Separated SpellsPart [] blank
  | last {part : α} {before text after : List Char} : IsBlankRun before → SpellsPart part text →
      IsBlankRun after → Separated SpellsPart [part] (before ++ (text ++ after))
  | more {part : α} {parts : List α} {before text after following : List Char} :
      IsBlankRun before → SpellsPart part text → IsBlankRun after →
      Separated SpellsPart parts following →
      Separated SpellsPart (part :: parts) (before ++ (text ++ (after ++ ',' :: following)))

inductive SpellsKey : List Char → List Char → Prop
  | bare {name : List Char} : isIdentifierText name = true → SpellsKey name name
  | quoted {key text : List Char} : readString text = .ok (key, []) → SpellsKey key ('"' :: text)

inductive SpellsMember (SpellsValue : Value → List Char → Prop) :
    String × Value → List Char → Prop
  | mk {key name afterName beforeValue text : List Char} {value : Value} : SpellsKey key name →
      IsBlankRun afterName → IsBlankRun beforeValue → SpellsValue value text →
      SpellsMember SpellsValue (String.ofList key, value)
        (name ++ (afterName ++ ':' :: (beforeValue ++ text)))

/-- The spellings of a value, without white space around them. The members of a record are inserted
one after another. -/
inductive Spells : Value → List Char → Prop
  | word {value : Value} {word : List Char} : wordValue? word = some value → Spells value word
  | string {characters text : List Char} : readString text = .ok (characters, []) →
      Spells (.text (String.ofList characters)) ('"' :: text)
  | number {number : Number} {first : Char} {text : List Char} :
      first = '-' ∨ isDigit first = true → readNumber (first :: text) = .ok (number, []) →
      Spells (.number number) (first :: text)
  | list {items : List Value} {text : List Char} : Separated Spells items text →
      Spells (.list items) ('[' :: (text ++ [']']))
  | record {members : List (String × Value)} {text : List Char} :
      Separated (SpellsMember Spells) members text →
      Spells (.record (Record.ofPairs members)) ('{' :: (text ++ ['}']))

/-! ## Where tokens end -/

def isTokenPart (character : Char) : Bool :=
  isIdentifierPart character || isNumberPart character

theorem isTokenPart_eq_false_of_isBlank {character : Char} (blank : isBlank character = true) :
    isTokenPart character = false := by
  simp only [isTokenPart, isIdentifierPart, isNumberPart, isDigit, Char.isAlphanum, Char.isAlpha,
    Char.isUpper, Char.isLower, Char.isDigit, isBlank, Char.le_def, UInt32.le_iff_toNat_le,
    Char.toNat] at *
  simp [Char.ext_iff, ← UInt32.toNat_inj] at *
  omega

theorem isBlank_eq_false_of_isTokenPart {character : Char} (part : isTokenPart character = true) :
    isBlank character = false := by
  by_contra blank
  simp [isTokenPart_eq_false_of_isBlank (by simpa using blank)] at part

theorem StopsAt.blanks_append {after rest : List Char} (blank : IsBlankRun after)
    (stops : StopsAt isTokenPart rest) : StopsAt isTokenPart (after ++ rest) := by
  cases after with
  | nil => exact stops
  | cons first after =>
      exact (stopsAt_cons ..).mpr
        (isTokenPart_eq_false_of_isBlank ((isBlankRun_cons ..).mp blank).1)

theorem stopsAt_isIdentifierPart {rest : List Char} (stops : StopsAt isTokenPart rest) :
    StopsAt isIdentifierPart rest := by
  intro first member
  exact (Bool.or_eq_false_iff.mp (stops first member)).1

theorem stopsAt_isNumberPart {rest : List Char} (stops : StopsAt isTokenPart rest) :
    StopsAt isNumberPart rest := by
  intro first member
  exact (Bool.or_eq_false_iff.mp (stops first member)).2

/-! ## Parts of the reader -/

theorem readSeparator_comma {close : Char} {fault : ReadFault} {after : List Char}
    (blank : IsBlankRun after) (rest : List Char) :
    readSeparator close fault (after ++ ',' :: rest) = .ok (true, rest) := by
  have skipped : skipBlank (after ++ ',' :: rest) = ',' :: rest :=
    skipBlank_append blank ((stopsAt_cons ..).mpr rfl)
  simp [readSeparator, skipped]

theorem readSeparator_close {close : Char} (notBlank : isBlank close = false)
    (notComma : close ≠ ',') {fault : ReadFault} {after : List Char} (blank : IsBlankRun after)
    (rest : List Char) :
    readSeparator close fault (after ++ close :: rest) = .ok (false, rest) := by
  have skipped : skipBlank (after ++ close :: rest) = close :: rest :=
    skipBlank_append blank ((stopsAt_cons ..).mpr notBlank)
  simp [readSeparator, skipped, notComma]

theorem expect_append {wanted : Char} (notBlank : isBlank wanted = false) {gap : List Char}
    (blank : IsBlankRun gap) (rest : List Char) :
    expect wanted (gap ++ wanted :: rest) = .ok rest := by
  have skipped : skipBlank (gap ++ wanted :: rest) = wanted :: rest :=
    skipBlank_append blank ((stopsAt_cons ..).mpr notBlank)
  simp [expect, skipped]

theorem isIdentifierPart_of_isIdentifierText {name : List Char}
    (identifier : isIdentifierText name = true) :
    ∀ character ∈ name, isIdentifierPart character = true := by
  cases name with
  | nil => simp
  | cons first rest =>
      simp only [isIdentifierText, Bool.and_eq_true, List.all_eq_true] at identifier
      intro character member
      rcases List.mem_cons.mp member with equal | inRest
      · subst equal
        have start := identifier.1
        simp only [isIdentifierStart, isIdentifierPart, Char.isAlphanum, Bool.or_eq_true] at start ⊢
        tauto
      · exact identifier.2 character inRest

theorem readKey_of_spellsKey {key name rest : List Char} (spells : SpellsKey key name)
    (stops : StopsAt isIdentifierPart rest) : readKey (name ++ rest) = .ok (key, rest) := by
  cases spells with
  | quoted read => simpa [readKey] using readString_append read rest
  | bare identifier =>
      have allParts := isIdentifierPart_of_isIdentifierText identifier
      have taken := takeWhile_append_of_stopsAt allParts stops
      have dropped := dropWhile_append_of_stopsAt allParts stops
      cases key with
      | nil => cases identifier
      | cons first key =>
          have start : isIdentifierStart first = true := by
            simp only [isIdentifierText, Bool.and_eq_true] at identifier
            exact identifier.1
          have notQuote : first ≠ '"' := fun quote => by
            simp [quote, isIdentifierStart] at start
          simp only [List.cons_append] at taken dropped ⊢
          simp [readKey, notQuote, start, taken, dropped]

/-! ## One step of the reader -/

section Steps

variable {fuel : Nat} {input rest unread : List Char} {first : Char}

theorem readValue_record {members : List (String × Value)} (skipped : skipBlank input = '{' :: rest)
    (read : readMembers fuel rest = .ok (members, unread)) :
    readValue (fuel + 1) input = .ok (.record (Record.ofPairs members), unread) := by
  simp [readValue, skipped, read, bind, Except.bind, pure, Except.pure]

theorem readValue_list {items : List Value} (skipped : skipBlank input = '[' :: rest)
    (read : readItems fuel rest = .ok (items, unread)) :
    readValue (fuel + 1) input = .ok (.list items, unread) := by
  simp [readValue, skipped, read, bind, Except.bind, pure, Except.pure]

theorem readValue_string {characters : List Char} (skipped : skipBlank input = '"' :: rest)
    (read : readString rest = .ok (characters, unread)) :
    readValue (fuel + 1) input = .ok (.text (String.ofList characters), unread) := by
  simp [readValue, skipped, read, bind, Except.bind, pure, Except.pure]

theorem readValue_number {number : Number} (skipped : skipBlank input = first :: rest)
    (numeric : first = '-' ∨ isDigit first = true)
    (read : readNumber (first :: rest) = .ok (number, unread)) :
    readValue (fuel + 1) input = .ok (.number number, unread) := by
  have notBrace : first ≠ '{' := fun equal => by simp [equal, isDigit] at numeric
  have notBracket : first ≠ '[' := fun equal => by simp [equal, isDigit] at numeric
  have notQuote : first ≠ '"' := fun equal => by simp [equal, isDigit] at numeric
  simp [readValue, skipped, notBrace, notBracket, notQuote, numeric, read, bind, Except.bind, pure,
    Except.pure]

theorem isDigit_eq_false_of_isAlpha (alphabetic : first.isAlpha = true) :
    isDigit first = false := by
  simp only [isDigit, Char.isAlpha, Char.isUpper, Char.isLower, Char.le_def,
    UInt32.le_iff_toNat_le] at *
  simp at *
  omega

theorem readValue_word (skipped : skipBlank input = first :: rest)
    (alphabetic : first.isAlpha = true) :
    readValue (fuel + 1) input = readWord (first :: rest) := by
  have notBrace : first ≠ '{' := fun equal => by simp [equal] at alphabetic
  have notBracket : first ≠ '[' := fun equal => by simp [equal] at alphabetic
  have notQuote : first ≠ '"' := fun equal => by simp [equal] at alphabetic
  have notMinus : first ≠ '-' := fun equal => by simp [equal] at alphabetic
  have notDigit := isDigit_eq_false_of_isAlpha alphabetic
  simp [readValue, skipped, notBrace, notBracket, notQuote, notMinus, notDigit, alphabetic]

theorem readItems_close (skipped : skipBlank input = ']' :: rest) :
    readItems (fuel + 1) input = .ok ([], rest) := by
  simp [readItems, skipped]

theorem readItems_item {item : Value} {afterItem : List Char} {another : Bool}
    (skipped : skipBlank input = first :: rest) (notClosed : first ≠ ']')
    (readItem : readValue fuel (first :: rest) = .ok (item, afterItem))
    (separator : readSeparator ']' .expectedAfterItem afterItem = .ok (another, unread)) :
    readItems (fuel + 1) input =
      if another then (readItems fuel unread).map fun read => (item :: read.1, read.2)
      else .ok ([item], unread) := by
  cases another with
  | false =>
      simp [readItems, skipped, notClosed, readItem, separator, bind, Except.bind, pure,
        Except.pure]
  | true =>
      cases following : readItems fuel unread <;>
        simp [readItems, skipped, notClosed, readItem, separator, following, bind, Except.bind,
          pure, Except.pure, Except.map]

theorem readMembers_close (skipped : skipBlank input = '}' :: rest) :
    readMembers (fuel + 1) input = .ok ([], rest) := by
  simp [readMembers, skipped]

theorem readMembers_member {key afterKey afterColon afterValue : List Char} {value : Value}
    {another : Bool} (skipped : skipBlank input = first :: rest) (notClosed : first ≠ '}')
    (name : readKey (first :: rest) = .ok (key, afterKey))
    (colon : expect ':' afterKey = .ok afterColon)
    (readMember : readValue fuel afterColon = .ok (value, afterValue))
    (separator : readSeparator '}' .expectedAfterMember afterValue = .ok (another, unread)) :
    readMembers (fuel + 1) input =
      if another then
        (readMembers fuel unread).map fun read => ((String.ofList key, value) :: read.1, read.2)
      else .ok ([(String.ofList key, value)], unread) := by
  cases another with
  | false =>
      simp [readMembers, skipped, notClosed, name, colon, readMember, separator, bind, Except.bind,
        pure, Except.pure]
  | true =>
      cases following : readMembers fuel unread <;>
        simp [readMembers, skipped, notClosed, name, colon, readMember, separator, following, bind,
          Except.bind, pure, Except.pure, Except.map]

end Steps

/-! ## How spellings start -/

theorem wordValue?_eq_some {word : List Char} {value : Value}
    (known : wordValue? word = some value) :
    (∀ character ∈ word, isIdentifierPart character = true) ∧
      ∃ first rest, word = first :: rest ∧ first.isAlpha = true := by
  unfold wordValue? at known
  split_ifs at known with isTrue isFalse isNull isUndefined
  · exact isTrue ▸ ⟨by simp [isIdentifierPart], 't', "rue".toList, rfl, rfl⟩
  · exact isFalse ▸ ⟨by simp [isIdentifierPart], 'f', "alse".toList, rfl, rfl⟩
  · exact isNull ▸ ⟨by simp [isIdentifierPart], 'n', "ull".toList, rfl, rfl⟩
  · exact isUndefined ▸ ⟨by simp [isIdentifierPart], 'u', "ndefined".toList, rfl, rfl⟩

theorem isTokenPart_of_isAlpha {first : Char} (alphabetic : first.isAlpha = true) :
    isTokenPart first = true := by
  simp [isTokenPart, isIdentifierPart, Char.isAlphanum, alphabetic]

theorem Spells.exists_start {value : Value} {text : List Char} (spells : Spells value text) :
    ∃ first rest, text = first :: rest ∧ isBlank first = false ∧ first ≠ ']' := by
  cases spells with
  | word known =>
      rcases wordValue?_eq_some known with ⟨_, first, rest, equal, alphabetic⟩
      refine ⟨first, rest, equal,
        isBlank_eq_false_of_isTokenPart (isTokenPart_of_isAlpha alphabetic), ?_⟩
      intro bracket
      simp [bracket] at alphabetic
  | string => exact ⟨'"', _, rfl, rfl, by decide⟩
  | @number _ first text numeric _ =>
      refine ⟨first, text, rfl, ?_, ?_⟩
      · rcases numeric with minus | digit
        · rw [minus]
          rfl
        · exact isBlank_eq_false_of_isTokenPart (by simp [isTokenPart, isNumberPart, digit])
      · intro bracket
        simp [bracket, isDigit] at numeric
  | list => exact ⟨'[', _, rfl, rfl, by decide⟩
  | record => exact ⟨'{', _, rfl, rfl, by decide⟩

theorem SpellsKey.exists_start {key name : List Char} (spells : SpellsKey key name) :
    ∃ first rest, name = first :: rest ∧ isBlank first = false ∧ first ≠ '}' := by
  cases spells with
  | quoted => exact ⟨'"', _, rfl, rfl, by decide⟩
  | bare identifier =>
      have allParts := isIdentifierPart_of_isIdentifierText identifier
      cases key with
      | nil => cases identifier
      | cons first rest =>
          have part : isIdentifierPart first = true := allParts first (by simp)
          refine ⟨first, rest, rfl,
            isBlank_eq_false_of_isTokenPart (by simp [isTokenPart, part]), ?_⟩
          intro brace
          simp [brace, isIdentifierPart] at part

/-! ## Completeness -/

structure ReadsSpellings (fuel : Nat) : Prop where
  value : ∀ {value : Value} {before text rest : List Char}, Spells value text → IsBlankRun before →
    StopsAt isTokenPart rest → 2 * text.length ≤ fuel →
    readValue fuel (before ++ (text ++ rest)) = .ok (value, rest)
  items : ∀ {items : List Value} {text rest : List Char}, Separated Spells items text →
    2 * text.length + 1 ≤ fuel → readItems fuel (text ++ ']' :: rest) = .ok (items, rest)
  members : ∀ {members : List (String × Value)} {text rest : List Char},
    Separated (SpellsMember Spells) members text → 2 * text.length + 1 ≤ fuel →
    readMembers fuel (text ++ '}' :: rest) = .ok (members, rest)

namespace ReadsSpellings

variable {fuel : Nat}

theorem readValue_succ (smaller : ReadsSpellings fuel) {value : Value}
    {before text rest : List Char}
    (spells : Spells value text) (blank : IsBlankRun before) (stops : StopsAt isTokenPart rest)
    (enough : 2 * text.length ≤ fuel + 1) :
    readValue (fuel + 1) (before ++ (text ++ rest)) = .ok (value, rest) := by
  rcases spells.exists_start with ⟨first, tail, start, notBlank, _⟩
  have skipped : skipBlank (before ++ (text ++ rest)) = first :: (tail ++ rest) := by
    rw [start]
    exact skipBlank_append blank ((stopsAt_cons ..).mpr notBlank)
  cases spells with
  | word known =>
      rcases wordValue?_eq_some known with ⟨allParts, initial, _, equal, alphabetic⟩
      have sameFirst : initial = first := (List.cons.inj (equal.symm.trans start)).1
      rw [readValue_word skipped (sameFirst ▸ alphabetic), ← List.cons_append, ← start, readWord,
        takeWhile_append_of_stopsAt allParts (stopsAt_isIdentifierPart stops),
        dropWhile_append_of_stopsAt allParts (stopsAt_isIdentifierPart stops)]
      simp [known]
  | string read =>
      cases start
      exact readValue_string skipped (readString_append read rest)
  | number numeric read =>
      cases start
      exact readValue_number skipped numeric
        (readNumber_append (by simp) read (stopsAt_isNumberPart stops))
  | @list items inner spelled =>
      cases start
      rw [List.append_assoc] at skipped
      simp only [List.length_cons, List.length_append, List.length_nil] at enough
      exact readValue_list skipped (smaller.items spelled (by omega))
  | @record members inner spelled =>
      cases start
      rw [List.append_assoc] at skipped
      simp only [List.length_cons, List.length_append, List.length_nil] at enough
      exact readValue_record skipped (smaller.members spelled (by omega))

/-- An item is read up to the text behind it, which the separator then decides about. -/
theorem readItems_of_spells (smaller : ReadsSpellings fuel) {item : Value}
    {before text tail unread : List Char} {another : Bool} (blank : IsBlankRun before)
    (spells : Spells item text) (stops : StopsAt isTokenPart tail)
    (enough : 2 * text.length ≤ fuel)
    (separator : readSeparator ']' .expectedAfterItem tail = .ok (another, unread)) :
    readItems (fuel + 1) (before ++ (text ++ tail)) =
      if another then (readItems fuel unread).map fun read => (item :: read.1, read.2)
      else .ok ([item], unread) := by
  rcases spells.exists_start with ⟨first, rest, start, notBlank, notClosed⟩
  have readItem := smaller.value spells isBlankRun_nil stops enough
  simp only [List.nil_append, start, List.cons_append] at readItem
  simp only [start, List.cons_append]
  exact readItems_item (skipBlank_append blank ((stopsAt_cons ..).mpr notBlank)) notClosed
    readItem separator

theorem readItems_succ (smaller : ReadsSpellings fuel) {items : List Value} {text rest : List Char}
    (spelled : Separated Spells items text) (enough : 2 * text.length + 1 ≤ fuel + 1) :
    readItems (fuel + 1) (text ++ ']' :: rest) = .ok (items, rest) := by
  cases spelled with
  | none blank => exact readItems_close (skipBlank_append blank ((stopsAt_cons ..).mpr rfl))
  | @last item before inner after blank spells blankAfter =>
      simp only [List.length_append] at enough
      simp only [List.append_assoc]
      exact smaller.readItems_of_spells blank spells
        (StopsAt.blanks_append blankAfter ((stopsAt_cons ..).mpr rfl)) (by omega)
        (readSeparator_close rfl (by decide) blankAfter rest)
  | @more item items before inner after following blank spells blankAfter spelledRest =>
      simp only [List.length_append, List.length_cons] at enough
      have readRest : readItems fuel (following ++ ']' :: rest) = .ok (items, rest) :=
        smaller.items spelledRest (by omega)
      simp only [List.append_assoc, List.cons_append]
      rw [smaller.readItems_of_spells blank spells
        (StopsAt.blanks_append blankAfter ((stopsAt_cons ..).mpr rfl)) (by omega)
        (readSeparator_comma blankAfter _), readRest]
      rfl

/-- A member is read up to the text behind it, which the separator then decides about. -/
theorem readMembers_of_spells (smaller : ReadsSpellings fuel) {member : String × Value}
    {before text tail unread : List Char} {another : Bool} (blank : IsBlankRun before)
    (spells : SpellsMember Spells member text) (stops : StopsAt isTokenPart tail)
    (enough : 2 * text.length ≤ fuel)
    (separator : readSeparator '}' .expectedAfterMember tail = .ok (another, unread)) :
    readMembers (fuel + 1) (before ++ (text ++ tail)) =
      if another then (readMembers fuel unread).map fun read => (member :: read.1, read.2)
      else .ok ([member], unread) := by
  rcases spells with
      @⟨key, name, afterName, beforeValue, valueText, value, spellsKey, blankName, blankValue,
        spells⟩
  rcases spellsKey.exists_start with ⟨first, rest, start, notBlank, notClosed⟩
  simp only [List.length_append, List.length_cons] at enough
  have nameEnds : StopsAt isTokenPart
      (afterName ++ ':' :: (beforeValue ++ (valueText ++ tail))) :=
    StopsAt.blanks_append blankName ((stopsAt_cons ..).mpr rfl)
  have readName := readKey_of_spellsKey spellsKey (stopsAt_isIdentifierPart nameEnds)
  simp only [start, List.cons_append] at readName
  simp only [List.append_assoc, start, List.cons_append]
  exact readMembers_member (skipBlank_append blank ((stopsAt_cons ..).mpr notBlank)) notClosed
    readName (expect_append rfl blankName _) (smaller.value spells blankValue stops (by omega))
    separator

theorem readMembers_succ (smaller : ReadsSpellings fuel) {members : List (String × Value)}
    {text rest : List Char} (spelled : Separated (SpellsMember Spells) members text)
    (enough : 2 * text.length + 1 ≤ fuel + 1) :
    readMembers (fuel + 1) (text ++ '}' :: rest) = .ok (members, rest) := by
  cases spelled with
  | none blank => exact readMembers_close (skipBlank_append blank ((stopsAt_cons ..).mpr rfl))
  | @last member before inner after blank spells blankAfter =>
      simp only [List.length_append] at enough
      simp only [List.append_assoc]
      exact smaller.readMembers_of_spells blank spells
        (StopsAt.blanks_append blankAfter ((stopsAt_cons ..).mpr rfl)) (by omega)
        (readSeparator_close rfl (by decide) blankAfter rest)
  | @more member members before inner after following blank spells blankAfter spelledRest =>
      simp only [List.length_append, List.length_cons] at enough
      have readRest : readMembers fuel (following ++ '}' :: rest) = .ok (members, rest) :=
        smaller.members spelledRest (by omega)
      simp only [List.append_assoc, List.cons_append]
      rw [smaller.readMembers_of_spells blank spells
        (StopsAt.blanks_append blankAfter ((stopsAt_cons ..).mpr rfl)) (by omega)
        (readSeparator_comma blankAfter _), readRest]
      rfl

end ReadsSpellings

/-- A unit of fuel is used up for every step into a part, so the induction is on the fuel. -/
theorem readsSpellings (fuel : Nat) : ReadsSpellings fuel := by
  induction fuel with
  | zero =>
      refine ⟨?_, ?_, ?_⟩
      · intro value before text rest spells _ _ enough
        rcases spells.exists_start with ⟨first, tail, start, _⟩
        simp [start] at enough
      · intro items text rest _ enough
        omega
      · intro members text rest _ enough
        omega
  | succ fuel smaller =>
      exact ⟨smaller.readValue_succ, smaller.readItems_succ, smaller.readMembers_succ⟩

/-- The reader takes a spelling with white space around it, and gives the value it spells. -/
theorem readChars_of_spells {value : Value} {before text after : List Char}
    (spells : Spells value text) (blankBefore : IsBlankRun before) (blankAfter : IsBlankRun after) :
    readChars (before ++ (text ++ after)) = .ok value := by
  have enough : 2 * text.length ≤ 2 * (before ++ (text ++ after)).length + 1 := by
    simp only [List.length_append]
    omega
  have stops : StopsAt isTokenPart after := by
    simpa using StopsAt.blanks_append blankAfter (stopsAt_nil _)
  have read := (readsSpellings _).value spells blankBefore stops enough
  have skipped : skipBlank after = [] := by
    simpa using skipBlank_append blankAfter (stopsAt_nil _)
  rw [readChars, read]
  simp [skipped, bind, Except.bind, pure, Except.pure]

theorem read_of_spells {value : Value} {text : List Char} (spells : Spells value text) :
    read (String.ofList text) = .ok value := by
  have readText := readChars_of_spells spells isBlankRun_nil isBlankRun_nil
  simp only [List.nil_append, List.append_nil] at readText
  simp [read, readText]

end Value

end EntitySchema
