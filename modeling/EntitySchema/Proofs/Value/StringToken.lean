import Mathlib
import EntitySchema.Value.Quoted
import EntitySchema.Value.Reader
/-!
String literals: reading undoes quoting, and a string that was read does not depend on the text
behind the quote that closes it.
-/

namespace EntitySchema

namespace Value

/-! ## Escapes -/

theorem hexDigitValue?_digitChar :
    ∀ digit < 16, hexDigitValue? (Nat.digitChar digit) = some digit := by
  decide

theorem digitChar_ne_plus : ∀ digit < 16, Nat.digitChar digit ≠ '+' := by
  decide

theorem escapedCode?_hexDigits4 (code : Nat) (small : code < 2 ^ 16) :
    escapedCode? (hexDigits4 code) = some code := by
  have noSign : escapedCode? (hexDigits4 code) = valueOfHexDigits? (hexDigits4 code) := by
    have digit := digitChar_ne_plus (code / 4096 % 16) (Nat.mod_lt _ (by decide))
    simp only [hexDigits4]
    unfold escapedCode?
    split
    · next equal =>
        injection equal with first
        exact absurd first digit
    · rfl
  have digits : ∀ value, hexDigitValue? (Nat.digitChar (value % 16)) = some (value % 16) :=
    fun value => hexDigitValue?_digitChar _ (Nat.mod_lt _ (by decide))
  rw [noSign]
  simp only [valueOfHexDigits?, hexDigits4, List.foldlM_cons, List.foldlM_nil, digits,
    Option.map_some, Option.bind_eq_bind, Option.bind_some, Option.pure_def, Option.some.injEq]
  omega

theorem charOfCode?_toNat (character : Char) : charOfCode? character.toNat = some character := by
  have valid : character.toNat.isValidChar := character.valid
  simp [charOfCode?, valid]

theorem toNat_lt_of_isControl_or_isLineSeparator {character : Char}
    (escaped : (isControl character || isLineSeparator character) = true) :
    character.toNat < 2 ^ 16 := by
  simp only [isControl, isLineSeparator, Bool.or_eq_true, Bool.and_eq_true, decide_eq_true_eq,
    beq_iff_eq] at escaped
  omega

/-! ## One step of the reader -/

theorem readString_quote (rest : List Char) : readString ('"' :: rest) = .ok ([], rest) := by
  rw [readString.eq_def]
  simp

theorem readString_plain {first : Char} (notQuote : first ≠ '"') (notBackslash : first ≠ '\\')
    (rest : List Char) :
    readString (first :: rest) = prependCharacter first (readString rest) := by
  rw [readString.eq_def]
  simp [notQuote, notBackslash]

theorem readString_simpleEscape {letter character : Char} (notUnicode : letter ≠ 'u')
    (stands : simpleEscape? letter = some character) (rest : List Char) :
    readString ('\\' :: letter :: rest) = prependCharacter character (readString rest) := by
  rw [readString.eq_def]
  simp [notUnicode, stands]

theorem readString_unicodeEscape {first second third fourth character : Char} {code : Nat}
    (spells : escapedCode? [first, second, third, fourth] = some code)
    (scalar : charOfCode? code = some character) (rest : List Char) :
    readString ('\\' :: 'u' :: first :: second :: third :: fourth :: rest) =
      prependCharacter character (readString rest) := by
  rw [readString.eq_def]
  simp [spells, scalar]

/-! ## Quoted text -/

theorem quotedChars_append (text rest : List Char) :
    quotedChars text ++ rest = '"' :: (text.flatMap escapeCharacter ++ '"' :: rest) := by
  simp [quotedChars]

/-- What stands for a character in a literal reads as that character. -/
theorem readString_escapeCharacter (character : Char) (rest : List Char) :
    readString (escapeCharacter character ++ rest) =
      prependCharacter character (readString rest) := by
  unfold escapeCharacter
  split_ifs with quote backslash newline carriage tab escaped
  · subst quote
    exact readString_simpleEscape (by decide) rfl rest
  · subst backslash
    exact readString_simpleEscape (by decide) rfl rest
  · subst newline
    exact readString_simpleEscape (by decide) rfl rest
  · subst carriage
    exact readString_simpleEscape (by decide) rfl rest
  · subst tab
    exact readString_simpleEscape (by decide) rfl rest
  · have code := escapedCode?_hexDigits4 character.toNat
      (toNat_lt_of_isControl_or_isLineSeparator escaped)
    exact readString_unicodeEscape code (charOfCode?_toNat character) rest
  · exact readString_plain quote backslash rest

/-- Reading undoes quoting, whatever follows. -/
theorem readString_flatMap_escapeCharacter (text rest : List Char) :
    readString (text.flatMap escapeCharacter ++ '"' :: rest) = .ok (text, rest) := by
  induction text with
  | nil => exact readString_quote rest
  | cons first text induction =>
      rw [List.flatMap_cons, List.append_assoc, readString_escapeCharacter, induction]
      rfl

/-! ## Text behind a string -/

theorem prependCharacter_eq_ok {character : Char} {reading : Reading (List Char × List Char)}
    {text unread : List Char} (read : prependCharacter character reading = .ok (text, unread)) :
    ∃ shorter, reading = .ok (shorter, unread) ∧ text = character :: shorter := by
  unfold prependCharacter at read
  split at read
  · next shorter _ =>
      cases read
      exact ⟨shorter, rfl, rfl⟩
  · cases read

/-- A string that was read is read in the same way when more text follows. -/
theorem readString_append {input text unread : List Char}
    (read : readString input = .ok (text, unread)) (rest : List Char) :
    readString (input ++ rest) = .ok (text, unread ++ rest) := by
  fun_induction readString input generalizing text unread with
  | case2 after =>
      cases read
      exact readString_quote (after ++ rest)
  | case4 first second third fourth after code spells character scalar _ induction =>
      rcases prependCharacter_eq_ok read with ⟨shorter, readAfter, rfl⟩
      have step := readString_unicodeEscape spells scalar (after ++ rest)
      rw [induction readAfter] at step
      exact step
  | case8 letter after notUnicode character stands _ induction =>
      rcases prependCharacter_eq_ok read with ⟨shorter, readAfter, rfl⟩
      have step := readString_simpleEscape notUnicode stands (after ++ rest)
      rw [induction readAfter] at step
      exact step
  | case10 first after notQuote notBackslash induction =>
      rcases prependCharacter_eq_ok read with ⟨shorter, readAfter, rfl⟩
      have step := readString_plain notQuote notBackslash (after ++ rest)
      rw [induction readAfter] at step
      exact step
  | case1 | case3 | case5 | case6 | case7 | case9 => cases read

end Value

end EntitySchema
