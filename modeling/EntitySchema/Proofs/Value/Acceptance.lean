import Mathlib
import EntitySchema.Proofs.Except
import EntitySchema.Proofs.Value.Grammar
/-!
The reader takes the texts that the grammar derives, and no others.

Every part of the reader splits the text: what it has read spells the part that it gives, and the
rest is left unread.
-/

namespace EntitySchema

theorem exists_blanks_skipBlank (text : List Char) :
    ∃ before, IsBlankRun before ∧ text = before ++ skipBlank text := by
  refine ⟨text.takeWhile isBlank, ?_, ?_⟩
  · intro character member
    exact List.mem_takeWhile_imp member
  · exact List.takeWhile_append_dropWhile.symm

theorem exists_blanks_of_skipBlank {text rest : List Char} (skipped : skipBlank text = rest) :
    ∃ before, IsBlankRun before ∧ text = before ++ rest :=
  skipped ▸ exists_blanks_skipBlank text

namespace Value

/-! ## Tokens -/

/-- The characters of a string are read alike without the text behind it. -/
theorem exists_stringToken {input characters unread : List Char}
    (read : readString input = .ok (characters, unread)) :
    ∃ token, input = token ++ unread ∧ readString token = .ok (characters, []) := by
  fun_induction readString input generalizing characters with
  | case2 after =>
      cases read
      exact ⟨['"'], rfl, readString_quote []⟩
  | case4 first second third fourth after code spells character scalar _ induction =>
      rcases prependCharacter_eq_ok read with ⟨shorter, readAfter, rfl⟩
      rcases induction readAfter with ⟨token, rfl, readToken⟩
      refine ⟨'\\' :: 'u' :: first :: second :: third :: fourth :: token, rfl, ?_⟩
      rw [readString_unicodeEscape spells scalar, readToken]
      rfl
  | case8 letter after notUnicode character stands _ induction =>
      rcases prependCharacter_eq_ok read with ⟨shorter, readAfter, rfl⟩
      rcases induction readAfter with ⟨token, rfl, readToken⟩
      refine ⟨'\\' :: letter :: token, rfl, ?_⟩
      rw [readString_simpleEscape notUnicode stands, readToken]
      rfl
  | case10 first after notQuote notBackslash induction =>
      rcases prependCharacter_eq_ok read with ⟨shorter, readAfter, rfl⟩
      rcases induction readAfter with ⟨token, rfl, readToken⟩
      refine ⟨first :: token, rfl, ?_⟩
      rw [readString_plain notQuote notBackslash, readToken]
      rfl
  -- In the other cases the string does not end, or an escape stands for nothing.
  | case1 | case3 | case5 | case6 | case7 | case9 => cases read

theorem scanNumber_split {fractional ends : Bool} {input token unread : List Char}
    (scanned : scanNumber fractional input = ((ends, token), unread)) :
    input = token ++ unread ∧ scanNumber fractional token = ((ends, token), []) := by
  induction input generalizing fractional token with
  | nil =>
      rw [scanNumber_nil] at scanned
      cases scanned
      exact ⟨rfl, scanNumber_nil _⟩
  | cons first rest induction =>
      cases next : nextFractional? fractional first with
      | none =>
          rw [scanNumber_cons_of_none next] at scanned
          cases scanned
          exact ⟨rfl, scanNumber_nil _⟩
      | some fractional' =>
          rw [scanNumber_cons_of_some next] at scanned
          cases scanned
          rcases induction rfl with ⟨split, scannedToken⟩
          refine ⟨congrArg (first :: ·) split, ?_⟩
          rw [scanNumber_cons_of_some next, scannedToken]

/-- A number token goes on from a sign or a digit, and is scanned alike without the text behind
it. -/
theorem scanSignedNumber_split {first : Char} {rest token unread : List Char} {ends : Bool}
    (numeric : first = '-' ∨ isDigit first = true)
    (scanned : scanSignedNumber (first :: rest) = ((ends, token), unread)) :
    ∃ tail, token = first :: tail ∧ rest = tail ++ unread ∧
      scanSignedNumber token = ((ends, token), []) := by
  by_cases minus : first = '-'
  · subst minus
    rw [scanSignedNumber_minus] at scanned
    cases scanned
    rcases scanNumber_split (rfl : scanNumber false rest = _) with ⟨split, scannedTail⟩
    refine ⟨_, rfl, split, ?_⟩
    rw [scanSignedNumber_minus, scannedTail]
  · have digit := numeric.resolve_left minus
    have next : nextFractional? false first = some false := by
      simp [nextFractional?, digit]
    rw [scanSignedNumber_of_ne_minus minus] at scanned
    rcases scanNumber_split scanned with ⟨split, scannedToken⟩
    rw [scanNumber_cons_of_some next] at scanned
    cases scanned
    refine ⟨_, rfl, (List.cons.inj split).2, ?_⟩
    rw [scanSignedNumber_of_ne_minus minus, scannedToken]

theorem exists_numberToken {first : Char} {rest unread : List Char} {number : Number}
    (numeric : first = '-' ∨ isDigit first = true)
    (read : readNumber (first :: rest) = .ok (number, unread)) :
    ∃ tail, rest = tail ++ unread ∧ readNumber (first :: tail) = .ok (number, []) := by
  rcases readNumber_eq_ok_iff.mp read with ⟨fractional, token, scanned, value⟩
  rcases scanSignedNumber_split numeric scanned with ⟨tail, rfl, split, scannedToken⟩
  exact ⟨tail, split, readNumber_eq_ok_iff.mpr ⟨fractional, _, scannedToken, value⟩⟩

theorem readWord_eq_ok {text unread : List Char} {value : Value}
    (read : readWord text = .ok (value, unread)) :
    ∃ word, text = word ++ unread ∧ wordValue? word = some value := by
  simp only [readWord] at read
  split at read
  · next known =>
      cases read
      exact ⟨_, List.takeWhile_append_dropWhile.symm, known⟩
  · cases read

theorem isIdentifierText_takeWhile {first : Char} (start : isIdentifierStart first = true)
    (rest : List Char) :
    isIdentifierText ((first :: rest).takeWhile isIdentifierPart) = true := by
  have part : isIdentifierPart first = true := by
    simp only [isIdentifierStart, isIdentifierPart, Char.isAlphanum, Bool.or_eq_true] at start ⊢
    tauto
  rw [List.takeWhile_cons_of_pos part, isIdentifierText, start, Bool.true_and, List.all_eq_true]
  intro character member
  exact List.mem_takeWhile_imp member

theorem exists_spellsKey {input key unread : List Char} (read : readKey input = .ok (key, unread)) :
    ∃ name, input = name ++ unread ∧ SpellsKey key name := by
  cases input with
  | nil => cases read
  | cons first rest =>
      rw [readKey] at read
      split_ifs at read with quote start
      · rcases exists_stringToken read with ⟨token, rfl, readToken⟩
        exact ⟨'"' :: token, congrArg (· :: _) quote, .quoted readToken⟩
      · cases read
        exact ⟨_, List.takeWhile_append_dropWhile.symm,
          .bare (isIdentifierText_takeWhile start rest)⟩

/-! ## Delimiters -/

theorem expect_eq_ok {wanted : Char} {text unread : List Char}
    (read : expect wanted text = .ok unread) :
    ∃ gap, IsBlankRun gap ∧ text = gap ++ wanted :: unread := by
  unfold expect at read
  split at read
  · cases read
  · next first rest skipped =>
      split_ifs at read with found
      cases read
      exact exists_blanks_of_skipBlank (found ▸ skipped)

theorem readSeparator_eq_ok {close : Char} {fault : ReadFault} {text unread : List Char}
    {another : Bool} (read : readSeparator close fault text = .ok (another, unread)) :
    ∃ gap, IsBlankRun gap ∧ text = gap ++ (if another then ',' else close) :: unread := by
  unfold readSeparator at read
  split at read
  · cases read
  · next first rest skipped =>
      split_ifs at read with comma closed
      · cases read
        exact exists_blanks_of_skipBlank (comma ▸ skipped)
      · cases read
        exact exists_blanks_of_skipBlank (closed ▸ skipped)

/-! ## What one step of the reader can give -/

section Steps

variable {fuel : Nat} {input unread : List Char}

/-- The first character decides what is read as a value. -/
theorem readValue_succ_eq_ok {value : Value}
    (read : readValue (fuel + 1) input = .ok (value, unread)) :
    ∃ first rest, skipBlank input = first :: rest ∧
      ((first = '{' ∧ ∃ members, readMembers fuel rest = .ok (members, unread) ∧
          value = .record (Record.ofPairs members)) ∨
        (first = '[' ∧ ∃ items, readItems fuel rest = .ok (items, unread) ∧ value = .list items) ∨
        (first = '"' ∧ ∃ characters, readString rest = .ok (characters, unread) ∧
          value = .text (String.ofList characters)) ∨
        ((first = '-' ∨ isDigit first = true) ∧
          ∃ number, readNumber (first :: rest) = .ok (number, unread) ∧ value = .number number) ∨
        readWord (first :: rest) = .ok (value, unread)) := by
  rw [readValue] at read
  split at read
  · cases read
  · next first rest skipped =>
      refine ⟨first, rest, skipped, ?_⟩
      split_ifs at read with brace bracket quote numeric alphabetic
      · rcases bind_eq_ok_iff.mp read with ⟨⟨members, left⟩, ofMembers, equal⟩
        cases equal
        exact .inl ⟨brace, members, ofMembers, rfl⟩
      · rcases bind_eq_ok_iff.mp read with ⟨⟨items, left⟩, ofItems, equal⟩
        cases equal
        exact .inr (.inl ⟨bracket, items, ofItems, rfl⟩)
      · rcases bind_eq_ok_iff.mp read with ⟨⟨characters, left⟩, ofString, equal⟩
        cases equal
        exact .inr (.inr (.inl ⟨quote, characters, ofString, rfl⟩))
      · rcases bind_eq_ok_iff.mp read with ⟨⟨number, left⟩, ofNumber, equal⟩
        cases equal
        exact .inr (.inr (.inr (.inl ⟨numeric, number, ofNumber, rfl⟩)))
      · exact .inr (.inr (.inr (.inr read)))

/-- A list ends at once, or goes on with an item, behind which it ends or is read on. -/
theorem readItems_succ_eq_ok {items : List Value}
    (read : readItems (fuel + 1) input = .ok (items, unread)) :
    (skipBlank input = ']' :: unread ∧ items = []) ∨
      ∃ item others afterItem another next,
        readValue fuel (skipBlank input) = .ok (item, afterItem) ∧
        readSeparator ']' .expectedAfterItem afterItem = .ok (another, next) ∧
        items = item :: others ∧
        if another then readItems fuel next = .ok (others, unread)
        else others = [] ∧ next = unread := by
  rw [readItems] at read
  split at read
  · next rest skipped =>
      cases read
      exact .inl ⟨skipped, rfl⟩
  · rcases bind_eq_ok_iff.mp read with ⟨⟨item, afterItem⟩, ofItem, read⟩
    rcases bind_eq_ok_iff.mp read with ⟨⟨another, next⟩, separator, read⟩
    right
    cases another with
    | false =>
        cases read
        exact ⟨item, [], afterItem, false, _, ofItem, separator, rfl, rfl, rfl⟩
    | true =>
        rcases bind_eq_ok_iff.mp read with ⟨⟨others, left⟩, ofRest, equal⟩
        cases equal
        exact ⟨item, others, afterItem, true, next, ofItem, separator, rfl, ofRest⟩

/-- A record ends at once, or goes on with a member, behind which it ends or is read on. -/
theorem readMembers_succ_eq_ok {members : List (String × Value)}
    (read : readMembers (fuel + 1) input = .ok (members, unread)) :
    (skipBlank input = '}' :: unread ∧ members = []) ∨
      ∃ key value others afterKey afterColon afterValue another next,
        readKey (skipBlank input) = .ok (key, afterKey) ∧
        expect ':' afterKey = .ok afterColon ∧
        readValue fuel afterColon = .ok (value, afterValue) ∧
        readSeparator '}' .expectedAfterMember afterValue = .ok (another, next) ∧
        members = (String.ofList key, value) :: others ∧
        if another then readMembers fuel next = .ok (others, unread)
        else others = [] ∧ next = unread := by
  rw [readMembers] at read
  split at read
  · next rest skipped =>
      cases read
      exact .inl ⟨skipped, rfl⟩
  · rcases bind_eq_ok_iff.mp read with ⟨⟨key, afterKey⟩, ofKey, read⟩
    rcases bind_eq_ok_iff.mp read with ⟨afterColon, colon, read⟩
    rcases bind_eq_ok_iff.mp read with ⟨⟨value, afterValue⟩, ofValue, read⟩
    rcases bind_eq_ok_iff.mp read with ⟨⟨another, next⟩, separator, read⟩
    right
    cases another with
    | false =>
        cases read
        exact ⟨key, value, [], afterKey, afterColon, afterValue, false, _, ofKey, colon, ofValue,
          separator, rfl, rfl, rfl⟩
    | true =>
        rcases bind_eq_ok_iff.mp read with ⟨⟨others, left⟩, ofRest, equal⟩
        cases equal
        exact ⟨key, value, others, afterKey, afterColon, afterValue, true, next, ofKey, colon,
          ofValue, separator, rfl, ofRest⟩

end Steps

/-! ## Soundness -/

structure GivesSpellings (fuel : Nat) : Prop where
  value : ∀ {input unread : List Char} {value : Value},
    readValue fuel input = .ok (value, unread) →
      ∃ before text, IsBlankRun before ∧ Spells value text ∧ input = before ++ (text ++ unread)
  items : ∀ {input unread : List Char} {items : List Value},
    readItems fuel input = .ok (items, unread) →
      ∃ text, Separated Spells items text ∧ input = text ++ ']' :: unread
  members : ∀ {input unread : List Char} {members : List (String × Value)},
    readMembers fuel input = .ok (members, unread) →
      ∃ text, Separated (SpellsMember Spells) members text ∧ input = text ++ '}' :: unread

namespace GivesSpellings

variable {fuel : Nat} {input unread : List Char}

theorem readValue_succ (smaller : GivesSpellings fuel) {value : Value}
    (read : readValue (fuel + 1) input = .ok (value, unread)) :
    ∃ before text, IsBlankRun before ∧ Spells value text ∧ input = before ++ (text ++ unread) := by
  rcases readValue_succ_eq_ok read with ⟨first, rest, skipped, step⟩
  rcases exists_blanks_of_skipBlank skipped with ⟨before, blank, rfl⟩
  suffices spelled : ∃ text, Spells value text ∧ first :: rest = text ++ unread by
    rcases spelled with ⟨text, spells, split⟩
    exact ⟨before, text, blank, spells, congrArg (before ++ ·) split⟩
  rcases step with ⟨rfl, members, ofMembers, rfl⟩ | ⟨rfl, items, ofItems, rfl⟩ |
    ⟨rfl, characters, ofString, rfl⟩ | ⟨numeric, number, ofNumber, rfl⟩ | ofWord
  · rcases smaller.members ofMembers with ⟨text, separated, rfl⟩
    exact ⟨_, .record separated, by simp⟩
  · rcases smaller.items ofItems with ⟨text, separated, rfl⟩
    exact ⟨_, .list separated, by simp⟩
  · rcases exists_stringToken ofString with ⟨token, rfl, readToken⟩
    exact ⟨_, .string readToken, rfl⟩
  · rcases exists_numberToken numeric ofNumber with ⟨tail, rfl, readToken⟩
    exact ⟨_, .number numeric readToken, rfl⟩
  · rcases readWord_eq_ok ofWord with ⟨word, split, known⟩
    exact ⟨word, .word known, split⟩

theorem readItems_succ (smaller : GivesSpellings fuel) {items : List Value}
    (read : readItems (fuel + 1) input = .ok (items, unread)) :
    ∃ text, Separated Spells items text ∧ input = text ++ ']' :: unread := by
  rcases exists_blanks_skipBlank input with ⟨gap, blankGap, split⟩
  rcases readItems_succ_eq_ok read with ⟨closed, rfl⟩ |
    ⟨item, others, afterItem, another, next, ofItem, separator, rfl, following⟩
  · exact ⟨gap, .none blankGap, closed ▸ split⟩
  · rcases smaller.value ofItem with ⟨before, text, blank, spells, readItem⟩
    rcases readSeparator_eq_ok separator with ⟨after, blankAfter, rfl⟩
    have blanks : IsBlankRun (gap ++ before) := isBlankRun_append blankGap blank
    rw [readItem] at split
    cases another with
    | false =>
        rcases following with ⟨rfl, rfl⟩
        exact ⟨_, .last blanks spells blankAfter, by simp [split]⟩
    | true =>
        rcases smaller.items following with ⟨textOfOthers, separated, rfl⟩
        exact ⟨_, .more blanks spells blankAfter separated, by simp [split]⟩

theorem readMembers_succ (smaller : GivesSpellings fuel) {members : List (String × Value)}
    (read : readMembers (fuel + 1) input = .ok (members, unread)) :
    ∃ text, Separated (SpellsMember Spells) members text ∧ input = text ++ '}' :: unread := by
  rcases exists_blanks_skipBlank input with ⟨gap, blankGap, split⟩
  rcases readMembers_succ_eq_ok read with ⟨closed, rfl⟩ |
    ⟨key, value, others, afterKey, afterColon, afterValue, another, next, ofKey, colon, ofValue,
      separator, rfl, following⟩
  · exact ⟨gap, .none blankGap, closed ▸ split⟩
  · rcases exists_spellsKey ofKey with ⟨name, readName, spellsKey⟩
    rcases expect_eq_ok colon with ⟨afterName, blankName, rfl⟩
    rcases smaller.value ofValue with ⟨beforeValue, text, blankValue, spells, rfl⟩
    rcases readSeparator_eq_ok separator with ⟨after, blankAfter, rfl⟩
    have member := SpellsMember.mk spellsKey blankName blankValue spells
    rw [readName] at split
    cases another with
    | false =>
        rcases following with ⟨rfl, rfl⟩
        exact ⟨_, .last blankGap member blankAfter, by simp [split]⟩
    | true =>
        rcases smaller.members following with ⟨textOfOthers, separated, rfl⟩
        exact ⟨_, .more blankGap member blankAfter separated, by simp [split]⟩

end GivesSpellings

/-- Without fuel the reader gives nothing, and each step goes back to parts read with less. -/
theorem givesSpellings (fuel : Nat) : GivesSpellings fuel := by
  induction fuel with
  | zero => exact ⟨nofun, nofun, nofun⟩
  | succ fuel smaller =>
      exact ⟨smaller.readValue_succ, smaller.readItems_succ, smaller.readMembers_succ⟩

theorem exists_spells_of_readChars {text : List Char} {value : Value}
    (read : readChars text = .ok value) :
    ∃ before spelling after, IsBlankRun before ∧ Spells value spelling ∧ IsBlankRun after ∧
      text = before ++ (spelling ++ after) := by
  rcases bind_eq_ok_iff.mp read with ⟨⟨value', unread⟩, ofValue, read⟩
  rcases (givesSpellings _).value ofValue with ⟨before, spelling, blank, spells, split⟩
  rcases exists_blanks_skipBlank unread with ⟨after, blankAfter, trailing⟩
  cases left : skipBlank unread with
  | nil =>
      simp only [left] at read
      cases read
      rw [left, List.append_nil] at trailing
      exact ⟨before, spelling, after, blank, spells, blankAfter, trailing ▸ split⟩
  | cons first rest =>
      simp only [left] at read
      cases read

theorem read_eq_ok_iff {text : String} {value : Value} :
    read text = .ok value ↔ readChars text.toList = .ok value := by
  unfold read
  split
  · next ofChars => rw [ofChars, Except.ok.injEq, Except.ok.injEq]
  · next ofChars => simp [ofChars]

/-! ## Words -/

def words : List (String × Value) :=
  [("true", .bool true), ("false", .bool false), ("null", .null), ("undefined", .undefined)]

theorem wordValue?_eq_some_iff {word : List Char} {value : Value} :
    wordValue? word = some value ↔ (String.ofList word, value) ∈ words := by
  constructor
  · intro known
    unfold wordValue? at known
    split_ifs at known with isTrue isFalse isNull isUndefined <;> cases known <;> simp_all [words]
  · intro member
    simp only [words, List.mem_cons, Prod.mk.injEq, List.not_mem_nil, or_false] at member
    have spelled {name : String} (equal : String.ofList word = name) : word = name.toList := by
      rw [← equal, String.toList_ofList]
    rcases member with ⟨name, rfl⟩ | ⟨name, rfl⟩ | ⟨name, rfl⟩ | ⟨name, rfl⟩ <;>
      rw [spelled name] <;> rfl

/-- A text reads as a value if and only if it spells that value, with white space around it or
not. A spelling is one of four words, a string token, a number token, or the spellings of items or
members between brackets or braces; the members of a record are inserted in their order. -/
theorem read_eq_ok_iff_spells (text : String) (value : Value) :
    (read text = .ok value ↔
      ∃ before spelling after, IsBlankRun before ∧ Spells value spelling ∧ IsBlankRun after ∧
        text.toList = before ++ (spelling ++ after)) ∧
    ∀ word, wordValue? word = some value ↔ (String.ofList word, value) ∈ words := by
  refine ⟨?_, fun word => wordValue?_eq_some_iff⟩
  rw [read_eq_ok_iff]
  constructor
  · exact exists_spells_of_readChars
  · rintro ⟨before, spelling, after, blank, spells, blankAfter, split⟩
    rw [split]
    exact readChars_of_spells spells blank blankAfter

end Value

end EntitySchema
