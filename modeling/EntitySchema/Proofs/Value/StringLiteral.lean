import Mathlib
import EntitySchema.Proofs.Value.StringToken
/-!
The string literals that the reader takes.

A literal spells its characters one after another between two quotes. A character stands for itself
or is escaped, by a letter or by its code point. The reader takes all these literals. It also takes a
plus sign in the place of the first digit of a code point, and nothing else.
-/

namespace EntitySchema

/-! ## Code points -/

def hexNumber? (digits : List Char) : Option Nat :=
  (digits.mapM hexDigitValue?).map fun values => Nat.ofDigits 16 values.reverse

example : hexNumber? ['2', '0', 'a', 'C'] = some 0x20AC := by decide

theorem hexNumber?_append_singleton (digits : List Char) (digit : Char) :
    hexNumber? (digits ++ [digit]) =
      (hexNumber? digits).bind fun leading =>
        (hexDigitValue? digit).map fun last => 16 * leading + last := by
  cases values : digits.mapM hexDigitValue? <;> cases value : hexDigitValue? digit <;>
    simp [hexNumber?, List.mapM_append, values, value, Nat.ofDigits_cons, add_comm]

theorem valueOfHexDigits?_eq_hexNumber? (digits : List Char) :
    valueOfHexDigits? digits = hexNumber? digits := by
  induction digits using List.reverseRecOn with
  | nil => rfl
  | append_singleton digits digit induction =>
      rw [hexNumber?_append_singleton, ← induction, valueOfHexDigits?, List.foldlM_append]
      simp [valueOfHexDigits?]

theorem charOfCode?_eq_some_iff {code : Nat} {character : Char} :
    charOfCode? code = some character ↔ code = character.toNat := by
  constructor
  · intro found
    unfold charOfCode? at found
    split_ifs at found with valid
    cases found
    simp [Char.toNat_ofNat, valid]
  · intro same
    rw [same]
    exact Value.charOfCode?_toNat character

namespace Value

def SpellsCode (text : List Char) (code : Nat) : Prop :=
  text.length = 4 ∧ hexNumber? text = some code

def SpellsSignedCode (text : List Char) (code : Nat) : Prop :=
  ∃ digits, text = '+' :: digits ∧ digits.length = 3 ∧ hexNumber? digits = some code

theorem hexNumber?_plus (digits : List Char) : hexNumber? ('+' :: digits) = none := by
  have notDigit : hexDigitValue? '+' = none := by decide
  simp [hexNumber?, List.mapM_cons, notDigit]

theorem escapedCode?_eq_some_iff {text : List Char} {code : Nat} (four : text.length = 4) :
    escapedCode? text = some code ↔ SpellsCode text code ∨ SpellsSignedCode text code := by
  unfold escapedCode?
  split
  · next digits =>
      have three : digits.length = 3 := Nat.succ.inj four
      simp [SpellsCode, SpellsSignedCode, valueOfHexDigits?_eq_hexNumber?, hexNumber?_plus, three]
  · next unsigned =>
      have notSigned : ¬SpellsSignedCode text code := by
        intro signed
        rcases signed with ⟨digits, rfl, _⟩
        exact unsigned digits rfl
      simp [SpellsCode, valueOfHexDigits?_eq_hexNumber?, four, notSigned]

/-! ## Characters -/

def simpleEscapes : List (Char × Char) :=
  [('"', '"'), ('\\', '\\'), ('/', '/'), ('n', '\n'), ('r', '\r'), ('t', '\t')]

theorem simpleEscape?_eq_some_iff {letter character : Char} :
    simpleEscape? letter = some character ↔ (letter, character) ∈ simpleEscapes := by
  unfold simpleEscape?
  split_ifs with same newline carriage tab
  · rcases same with rfl | rfl | rfl <;> simp [simpleEscapes, eq_comm]
  · simp [simpleEscapes, newline, eq_comm]
  · simp [simpleEscapes, carriage, eq_comm]
  · simp [simpleEscapes, tab, eq_comm]
  · simp_all [simpleEscapes]

inductive SpellsCharacter (SpellsCode : List Char → Nat → Prop) : Char → List Char → Prop
  | plain {character : Char} : character ≠ '"' → character ≠ '\\' →
      SpellsCharacter SpellsCode character [character]
  | escape {letter character : Char} : (letter, character) ∈ simpleEscapes →
      SpellsCharacter SpellsCode character ['\\', letter]
  | unicode {text : List Char} {character : Char} : SpellsCode text character.toNat →
      SpellsCharacter SpellsCode character ('\\' :: 'u' :: text)

def IsStringLiteral (SpellsCode : List Char → Nat → Prop) (characters literal : List Char) : Prop :=
  ∃ items, List.Forall₂ (SpellsCharacter SpellsCode) characters items ∧
    literal = '"' :: (items.flatten ++ ['"'])

def SpellsReadCode (text : List Char) (code : Nat) : Prop :=
  SpellsCode text code ∨ SpellsSignedCode text code

theorem SpellsReadCode.length {text : List Char} {code : Nat} (spells : SpellsReadCode text code) :
    text.length = 4 := by
  rcases spells with unsigned | ⟨digits, rfl, three, _⟩
  · exact unsigned.1
  · rw [List.length_cons, three]

theorem SpellsCharacter.mono {SpellsCode SpellsOther : List Char → Nat → Prop} {character : Char}
    {item : List Char} (spells : SpellsCharacter SpellsCode character item)
    (each : ∀ text code, item = '\\' :: 'u' :: text → SpellsCode text code → SpellsOther text code) :
    SpellsCharacter SpellsOther character item := by
  cases spells with
  | plain notQuote notBackslash => exact .plain notQuote notBackslash
  | escape stands => exact .escape stands
  | unicode code => exact .unicode (each _ _ rfl code)

/-! ## One character -/

variable {character : Char} {item characters unread : List Char}

theorem readString_of_spellsCharacter (spells : SpellsCharacter SpellsReadCode character item)
    (rest : List Char) :
    readString (item ++ rest) = prependCharacter character (readString rest) := by
  cases spells with
  | plain notQuote notBackslash => exact readString_plain notQuote notBackslash rest
  | @escape letter _ stands =>
      have notUnicode : letter ≠ 'u' := by
        intro unicode
        simp [simpleEscapes, unicode] at stands
      exact readString_simpleEscape notUnicode (simpleEscape?_eq_some_iff.mpr stands) rest
  | @unicode text _ spelled =>
      have four := spelled.length
      have code := (escapedCode?_eq_some_iff four).mpr spelled
      rcases List.length_eq_four.mp four with ⟨first, second, third, fourth, rfl⟩
      exact readString_unicodeEscape code (charOfCode?_toNat character) rest

/-- The reader splits a text into spellings of the characters that it gives. -/
theorem exists_items_of_readString {input : List Char}
    (read : readString input = .ok (characters, unread)) :
    ∃ items, List.Forall₂ (SpellsCharacter SpellsReadCode) characters items ∧
      input = items.flatten ++ '"' :: unread := by
  fun_induction readString input generalizing characters with
  | case2 after =>
      cases read
      exact ⟨[], .nil, rfl⟩
  | case4 first second third fourth after code spells character scalar _ induction =>
      rcases prependCharacter_eq_ok read with ⟨shorter, readAfter, rfl⟩
      rcases induction readAfter with ⟨items, each, rfl⟩
      have spelled := (escapedCode?_eq_some_iff rfl).mp spells
      rw [charOfCode?_eq_some_iff.mp scalar] at spelled
      exact ⟨_ :: items, .cons (.unicode spelled) each, rfl⟩
  | case8 letter after notUnicode character stands _ induction =>
      rcases prependCharacter_eq_ok read with ⟨shorter, readAfter, rfl⟩
      rcases induction readAfter with ⟨items, each, rfl⟩
      exact ⟨_ :: items, .cons (.escape (simpleEscape?_eq_some_iff.mp stands)) each, rfl⟩
  | case10 first after notQuote notBackslash induction =>
      rcases prependCharacter_eq_ok read with ⟨shorter, readAfter, rfl⟩
      rcases induction readAfter with ⟨items, each, rfl⟩
      exact ⟨_ :: items, .cons (.plain notQuote notBackslash) each, rfl⟩
  | case1 | case3 | case5 | case6 | case7 | case9 => cases read

theorem readString_of_items {items : List (List Char)}
    (each : List.Forall₂ (SpellsCharacter SpellsReadCode) characters items) (unread : List Char) :
    readString (items.flatten ++ '"' :: unread) = .ok (characters, unread) := by
  induction each with
  | nil => exact readString_quote unread
  | cons spells _ induction =>
      rw [List.flatten_cons, List.append_assoc, readString_of_spellsCharacter spells, induction]
      rfl

/-! ## Whole literals -/

def signedEscape : List Char := ['\\', 'u', '+']

theorem forall₂_spellsCode_of_not_signed {items : List (List Char)}
    (each : List.Forall₂ (SpellsCharacter SpellsReadCode) characters items)
    (unsigned : ¬signedEscape <:+: items.flatten) :
    List.Forall₂ (SpellsCharacter SpellsCode) characters items := by
  induction each with
  | nil => exact .nil
  | @cons character item characters items spells _ induction =>
      rw [List.flatten_cons] at unsigned
      refine .cons (spells.mono ?_) (induction ?_)
      · intro text code same spelled
        rcases spelled with plain | ⟨digits, rfl, _⟩
        · exact plain
        · exact absurd ⟨[], digits ++ items.flatten, by simp [signedEscape, same]⟩ unsigned
      · intro inRest
        exact unsigned (inRest.trans (List.suffix_append _ _).isInfix)

theorem isStringLiteral_append_iff {SpellsCode : List Char → Nat → Prop} {input : List Char} :
    (∃ literal, IsStringLiteral SpellsCode characters literal ∧ '"' :: input = literal ++ unread) ↔
      ∃ items, List.Forall₂ (SpellsCharacter SpellsCode) characters items ∧
        input = items.flatten ++ '"' :: unread := by
  constructor
  · intro isLiteral
    rcases isLiteral with ⟨_, ⟨items, each, rfl⟩, split⟩
    exact ⟨items, each, by simpa using split⟩
  · intro spelled
    rcases spelled with ⟨items, each, rfl⟩
    exact ⟨_, ⟨items, each, rfl⟩, by simp⟩

/-- Behind a quote the reader takes a literal up to the quote that closes it, and gives its
characters. Its literals are those whose code points have four hexadecimal digits, or three behind a
plus sign, so where no sign introduces a code point, all of them have four digits. -/
theorem readString_eq_ok_iff_literal (input characters unread : List Char) :
    (readString input = .ok (characters, unread) ↔
      ∃ literal, IsStringLiteral SpellsReadCode characters literal ∧
        '"' :: input = literal ++ unread) ∧
    (¬signedEscape <:+: input →
      (readString input = .ok (characters, unread) ↔
        ∃ literal, IsStringLiteral SpellsCode characters literal ∧
          '"' :: input = literal ++ unread)) := by
  rw [isStringLiteral_append_iff, isStringLiteral_append_iff]
  have takes : ∀ items, List.Forall₂ (SpellsCharacter SpellsReadCode) characters items →
      input = items.flatten ++ '"' :: unread → readString input = .ok (characters, unread) := by
    intro items each split
    rw [split]
    exact readString_of_items each unread
  refine ⟨⟨exists_items_of_readString, ?_⟩, fun unsigned => ⟨?_, ?_⟩⟩
  · intro spelled
    rcases spelled with ⟨items, each, split⟩
    exact takes items each split
  · intro read
    rcases exists_items_of_readString read with ⟨items, each, split⟩
    refine ⟨items, forall₂_spellsCode_of_not_signed each fun inItems => ?_, split⟩
    rw [split] at unsigned
    exact unsigned (inItems.trans (List.prefix_append _ _).isInfix)
  · intro spelled
    rcases spelled with ⟨items, each, split⟩
    exact takes items (each.imp fun _ _ spells => spells.mono fun _ _ _ => .inl) split

/-- An `A` is read from four digits, and also from a sign and three digits, which is no literal. -/
theorem readString_signedEscape :
    readString ['\\', 'u', '0', '0', '4', '1', '"', ' '] = .ok (['A'], [' ']) ∧
    readString ['\\', 'u', '+', '0', '4', '1', '"'] = .ok (['A'], []) ∧
    ¬∃ literal, IsStringLiteral SpellsCode ['A'] literal ∧
      ['"', '\\', 'u', '+', '0', '4', '1', '"'] = literal ++ [] := by
  refine ⟨?_, ?_, ?_⟩
  · apply ((readString_eq_ok_iff_literal _ _ _).2 (by decide)).mpr
    have digits : SpellsCode ['0', '0', '4', '1'] 'A'.toNat := ⟨rfl, rfl⟩
    exact ⟨_, ⟨_, .cons (.unicode digits) .nil, rfl⟩, rfl⟩
  · apply (readString_eq_ok_iff_literal _ _ _).1.mpr
    have digits : SpellsReadCode ['+', '0', '4', '1'] 'A'.toNat :=
      .inr ⟨['0', '4', '1'], rfl, rfl, rfl⟩
    exact ⟨_, ⟨_, .cons (.unicode digits) .nil, rfl⟩, rfl⟩
  · rw [isStringLiteral_append_iff]
    intro spelled
    rcases spelled with ⟨items, each, split⟩
    cases each with
    | cons spells none =>
        cases none
        cases spells with
        | plain => simp at split
        | escape stands => simp [simpleEscapes] at stands split
        | @unicode text _ code =>
            have signed : ['+', '0', '4', '1'] ++ ['"'] = text ++ ['"'] := by
              simpa using split
            rw [← List.append_cancel_right signed] at code
            simp [SpellsCode, hexNumber?_plus] at code

end Value

end EntitySchema
