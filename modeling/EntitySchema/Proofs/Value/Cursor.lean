import Mathlib
import EntitySchema.Proofs.Value.Acceptance
import EntitySchema.Proofs.Value.Scan
import EntitySchema.Proofs.Value.StringLiteral
/-!
The tokens of a literal, scanned by bytes.

Every scan has the reading of the same name beside it, which goes over the characters of the text
that is still unread: the two give the same and end at the same place. A scan is given more passes
for its loops than there are characters left, and never needs them all.
-/

namespace EntitySchema

namespace Value

namespace Cursor

variable {content unread rest : List Char} {fuel : Nat}

/-! ## White space and words -/

def passWhile (content : List Char) (accepts : Char → Bool) (fuel : Nat) : Scan Unit :=
  repeated (fun _ => do
    match ← peek content with
    | none => return .inr ()
    | some character =>
      if accepts character then
        let _ ← bump content
        return .inl ()
      else return .inr ()) fuel ()

theorem performs_passWhile {accepts : Char → Bool} (enough : unread.length < fuel) :
    Performs content (passWhile content accepts fuel) unread (.ok ())
      (unread.dropWhile accepts) := by
  induction unread generalizing fuel with
  | nil =>
      rcases Nat.exists_eq_add_one_of_ne_zero (Nat.ne_of_gt enough) with ⟨passes, rfl⟩
      apply Performs.repeated_leave
      exact (performs_peek []).bind (performs_pure _ [])
  | cons first rest induction =>
      rcases Nat.exists_eq_add_one_of_ne_zero (Nat.ne_zero_of_lt enough) with ⟨passes, rfl⟩
      by_cases accepted : accepts first = true
      · rw [List.dropWhile_cons_of_pos accepted]
        refine Performs.repeated_again ?_ (Nat.lt_succ_self rest.length)
          (induction (Nat.lt_of_succ_lt_succ enough))
        refine (performs_peek (first :: rest)).bind ?_
        simp only [List.head?_cons, accepted, if_true]
        exact (performs_bump_cons first rest).bind (performs_pure _ rest)
      · rw [List.dropWhile_cons_of_neg accepted]
        apply Performs.repeated_leave
        refine (performs_peek (first :: rest)).bind ?_
        simp only [List.head?_cons, accepted]
        exact performs_pure _ (first :: rest)

theorem performs_skipBlank (enough : unread.length < fuel) :
    Performs content (passWhile content isBlank fuel) unread (.ok ()) (skipBlank unread) :=
  performs_passWhile enough

def expect (content : List Char) (fuel : Nat) (wanted : Char) : Scan Unit := do
  passWhile content isBlank fuel
  match ← bump content with
  | none => throw (.expected wanted none)
  | some found => if found = wanted then return () else throw (.expected wanted (some found))

theorem agrees_expect (enough : unread.length < fuel) (wanted : Char) :
    Agrees content (expect content fuel wanted) unread
      ((Value.expect wanted unread).map fun rest => ((), rest)) := by
  refine (performs_skipBlank enough).bind ?_
  unfold Value.expect
  cases skipBlank unread with
  | nil => exact performs_bump_nil.bind (performs_throw _ [])
  | cons first rest =>
      refine (performs_bump_cons first rest).bind ?_
      by_cases found : first = wanted
      · simp only [found, if_true]
        exact performs_pure () rest
      · simp only [found, if_false]
        exact performs_throw _ rest

theorem expect_cons {first : Char} (printed : isBlank first = false) (rest : List Char) :
    Value.expect first (first :: rest) = .ok rest := by
  simp [Value.expect, skipBlank, printed]

theorem performs_open {first : Char} (printed : isBlank first = false)
    (enough : (first :: rest).length < fuel) :
    Performs content (expect content fuel first) (first :: rest) (.ok ()) rest := by
  have expected : Agrees content (expect content fuel first) (first :: rest) _ :=
    agrees_expect enough first
  rw [expect_cons printed] at expected
  exact expected

def separator (content : List Char) (fuel : Nat) (close : Char) (fault : ReadFault) :
    Scan Bool := do
  passWhile content isBlank fuel
  match ← bump content with
  | none => throw fault
  | some found =>
    if found = ',' then return true else if found = close then return false else throw fault

theorem agrees_separator (enough : unread.length < fuel) (close : Char) (fault : ReadFault) :
    Agrees content (separator content fuel close fault) unread
      (readSeparator close fault unread) := by
  refine (performs_skipBlank enough).bind ?_
  unfold readSeparator
  cases skipBlank unread with
  | nil => exact performs_bump_nil.bind (performs_throw _ [])
  | cons first rest =>
      refine (performs_bump_cons first rest).bind ?_
      simp only
      split_ifs with comma closed
      · exact performs_pure true rest
      · exact performs_pure false rest
      · exact performs_throw fault rest

def word (content : List Char) (fuel : Nat) : Scan (List Char) :=
  return (← spanned content (passWhile content isIdentifierPart fuel)).2

theorem performs_word (enough : unread.length < fuel) :
    Performs content (word content fuel) unread (.ok (unread.takeWhile isIdentifierPart))
      (unread.dropWhile isIdentifierPart) := by
  have passed : Performs content (passWhile content isIdentifierPart fuel)
      (unread.takeWhile isIdentifierPart ++ unread.dropWhile isIdentifierPart) (.ok ())
      (unread.dropWhile isIdentifierPart) := by
    rw [List.takeWhile_append_dropWhile]
    exact performs_passWhile enough
  have letters := performs_spanned passed
  rw [List.takeWhile_append_dropWhile] at letters
  exact letters.bind (performs_pure _ _)

/-! ## Escapes -/

/-- The four bytes of a code are looked at in one slice and passed over in one step. -/
def unicodeEscape (content : List Char) : Scan Char := do
  let start ← position
  match slice? content start (start + 4) with
  | none => throw .truncatedUnicode
  | some digits =>
    match escapedCode? digits with
    | none => throw .invalidUnicode
    | some code =>
      moveTo (start + 4)
      match charOfCode? code with
      | none => throw .invalidScalar
      | some character => return character

def readUnicode (input : List Char) : Reading (Char × List Char) :=
  match cut? 4 input with
  | none => .error { unread := input, fault := .truncatedUnicode }
  | some (digits, afterCode) =>
    match escapedCode? digits with
    | none => .error { unread := input, fault := .invalidUnicode }
    | some code =>
      match charOfCode? code with
      | none => .error { unread := afterCode, fault := .invalidScalar }
      | some character => .ok (character, afterCode)

theorem agrees_unicodeEscape (unread : List Char) :
    Agrees content (unicodeEscape content) unread (readUnicode unread) := by
  have sliced : ∀ before, content = before ++ unread →
      slice? content (utf8Length before) (utf8Length before + 4) =
        (cut? 4 unread).map Prod.fst := by
    intro before split
    rw [split, slice?_append]
  unfold unicodeEscape readUnicode
  cases cut : cut? 4 unread with
  | none =>
      refine performs_position (List.suffix_refl unread) fun before split => ?_
      simp only [sliced before split, cut, Option.map_none]
      exact performs_throw _ unread
  | some parts =>
      rcases parts with ⟨digits, after⟩
      rcases cut?_eq_some_iff.mp cut with ⟨rfl, four⟩
      cases spells : escapedCode? digits with
      | none =>
          simp only [spells]
          refine performs_position (List.suffix_refl _) fun before split => ?_
          simp only [sliced before split, cut, Option.map_some, spells]
          exact performs_throw _ _
      | some code =>
          have moved : ∀ before, content = before ++ (digits ++ after) →
              Performs content (moveTo (utf8Length before + 4)) (digits ++ after) (.ok ())
                after := by
            intro before split
            rw [← four]
            exact performs_moveTo digits split
          cases scalar : charOfCode? code with
          | none =>
              simp only [spells, scalar]
              refine performs_position (List.suffix_append _ _) fun before split => ?_
              simp only [sliced before split, cut, Option.map_some, spells, scalar]
              exact (moved before split).bind (performs_throw _ after)
          | some character =>
              simp only [spells, scalar]
              refine performs_position (List.suffix_append _ _) fun before split => ?_
              simp only [sliced before split, cut, Option.map_some, spells, scalar]
              exact (moved before split).bind (performs_pure character after)

def escape (content : List Char) : Scan Char := do
  match ← bump content with
  | none => throw .invalidEscape
  | some letter =>
    if letter = 'u' then unicodeEscape content
    else
      match simpleEscape? letter with
      | none => throw .invalidEscape
      | some character => return character

def readEscape : List Char → Reading (Char × List Char)
  | [] => .error { unread := [], fault := .invalidEscape }
  | letter :: afterLetter =>
    if letter = 'u' then readUnicode afterLetter
    else
      match simpleEscape? letter with
      | none => .error { unread := afterLetter, fault := .invalidEscape }
      | some character => .ok (character, afterLetter)

theorem agrees_escape (unread : List Char) :
    Agrees content (escape content) unread (readEscape unread) := by
  cases unread with
  | nil => exact performs_bump_nil.bind (performs_throw _ [])
  | cons letter rest =>
      refine (performs_bump_cons letter rest).bind ?_
      by_cases unicode : letter = 'u'
      · simp only [readEscape, unicode, if_true]
        exact agrees_unicodeEscape rest
      · simp only [readEscape, unicode, if_false]
        cases simpleEscape? letter with
        | none => exact performs_throw _ rest
        | some character => exact performs_pure character rest

/-! The reader takes an escape of four characters, which are four bytes if they spell a code. -/

theorem utf8Size_of_hexDigitValue? {digit : Char} {value : Nat}
    (hexadecimal : hexDigitValue? digit = some value) : digit.utf8Size = 1 := by
  have small : digit.val ≤ 0x7F := by
    unfold hexDigitValue? at hexadecimal
    split_ifs at hexadecimal with decimal lower upper
    · exact UInt32.le_trans decimal.2 (by decide)
    · exact UInt32.le_trans lower.2 (by decide)
    · exact UInt32.le_trans upper.2 (by decide)
  exact Char.utf8Size_eq_one_iff.mpr small

theorem utf8Length_of_valueOfHexDigits? {digits : List Char} {code : Nat}
    (spells : valueOfHexDigits? digits = some code) : utf8Length digits = digits.length := by
  rw [valueOfHexDigits?_eq_hexNumber?, hexNumber?] at spells
  rcases Option.map_eq_some_iff.mp spells with ⟨values, valued, -⟩
  clear spells
  induction digits generalizing values with
  | nil => rfl
  | cons digit rest induction =>
      rw [List.mapM_cons] at valued
      simp only [Option.bind_eq_bind, Option.bind_eq_some_iff] at valued
      rcases valued with ⟨value, hexadecimal, others, valuedRest, _⟩
      rw [utf8Length_cons, List.length_cons, utf8Size_of_hexDigitValue? hexadecimal,
        induction others valuedRest, Nat.add_comm]

theorem utf8Length_of_escapedCode? {digits : List Char} {code : Nat}
    (spells : escapedCode? digits = some code) : utf8Length digits = digits.length := by
  unfold escapedCode? at spells
  split at spells
  · next rest =>
      rw [utf8Length_cons, utf8Length_of_valueOfHexDigits? spells, List.length_cons, Nat.add_comm]
      rfl
  · exact utf8Length_of_valueOfHexDigits? spells

theorem length_of_cut?_of_escapedCode? {input digits after : List Char} {code bytes : Nat}
    (cut : cut? bytes input = some (digits, after)) (spells : escapedCode? digits = some code) :
    digits.length = bytes := by
  rw [← utf8Length_of_escapedCode? spells]
  exact (cut?_eq_some_iff.mp cut).2

theorem unicodeFailure_of_cut?_eq_none {input : List Char} (noCut : cut? 4 input = none) :
    unicodeFailure input = { unread := input, fault := .truncatedUnicode } := by
  have noBoundary : hasBoundaryAt 4 input = false := by
    rw [← isSome_cut?, noCut]
    rfl
  simp [unicodeFailure, noBoundary]

theorem unicodeFailure_of_cut?_eq_some {input digits after : List Char}
    (cut : cut? 4 input = some (digits, after)) :
    unicodeFailure input = { unread := input, fault := .invalidUnicode } := by
  have boundary : hasBoundaryAt 4 input = true := by
    rw [← isSome_cut?, cut]
    rfl
  simp [unicodeFailure, boundary]

/-- A code of four characters takes four bytes. -/
theorem readUnicode_of_some {first second third fourth : Char} {code : Nat}
    (spells : escapedCode? [first, second, third, fourth] = some code) (rest : List Char) :
    readUnicode (first :: second :: third :: fourth :: rest) =
      (charOfCode? code).elim (.error { unread := rest, fault := .invalidScalar })
        fun character => .ok (character, rest) := by
  have four : utf8Length [first, second, third, fourth] = 4 := utf8Length_of_escapedCode? spells
  have cut := cut?_append [first, second, third, fourth] rest
  rw [four] at cut
  simp only [List.cons_append, List.nil_append] at cut
  simp only [readUnicode, cut, spells]
  cases charOfCode? code <;> rfl

theorem readUnicode_of_none {input : List Char}
    (noCode : ∀ digits rest, input = digits ++ rest → digits.length = 4 →
      escapedCode? digits = none) :
    readUnicode input = .error (unicodeFailure input) := by
  unfold readUnicode
  cases cut : cut? 4 input with
  | none => rw [unicodeFailure_of_cut?_eq_none cut]
  | some parts =>
      rcases parts with ⟨digits, after⟩
      rw [unicodeFailure_of_cut?_eq_some cut]
      cases spells : escapedCode? digits with
      | none => simp only [spells]
      | some code =>
          have four := length_of_cut?_of_escapedCode? cut spells
          rw [noCode digits after (cut?_eq_some_iff.mp cut).1 four] at spells
          cases spells

theorem readString_backslash (input : List Char) :
    readString ('\\' :: input) =
      readEscape input >>= fun part => prependCharacter part.1 (readString part.2) := by
  rw [readString.eq_def]
  simp only [Char.reduceEq, if_false, if_true]
  cases input with
  | nil => rfl
  | cons letter input =>
      by_cases unicode : letter = 'u'
      · simp only [unicode, if_true, readEscape]
        split
        · next first second third fourth rest =>
            cases spells : escapedCode? [first, second, third, fourth] with
            | some code =>
                rw [readUnicode_of_some spells]
                cases scalar : charOfCode? code <;> simp [scalar]
            | none =>
                rw [readUnicode_of_none]
                · rfl
                · intro digits after split four
                  have same : digits = [first, second, third, fourth] :=
                    (List.append_inj split.symm four).1
                  rw [same, spells]
        · next short =>
            rw [readUnicode_of_none]
            · rfl
            · intro digits after split four
              rcases List.length_eq_four.mp four with ⟨first, second, third, fourth, rfl⟩
              exact absurd split (short first second third fourth after)
      · simp only [unicode, if_false, readEscape]
        cases simpleEscape? letter <;> rfl

/-! ## Strings -/

def stringPass (content characters : List Char) : Scan (List Char ⊕ List Char) := do
  match ← bump content with
  | none => throw .unterminatedString
  | some character =>
    if character = '"' then return .inr characters
    else if character = '\\' then return .inl (characters ++ [← escape content])
    else return .inl (characters ++ [character])

def string (content : List Char) (fuel : Nat) : Scan (List Char) := do
  expect content fuel '"'
  repeated (stringPass content) fuel []

theorem mapPart_prependCharacter (characters : List Char) (character : Char)
    (reading : Reading (List Char × List Char)) :
    mapPart (characters ++ ·) (prependCharacter character reading) =
      mapPart (characters ++ [character] ++ ·) reading := by
  cases reading with
  | error failure => rfl
  | ok part => simp [mapPart, prependCharacter, Except.map]

theorem agrees_characters {passes : Nat} (enough : unread.length < passes)
    (characters : List Char) :
    Agrees content (repeated (stringPass content) passes characters) unread
      (mapPart (characters ++ ·) (readString unread)) := by
  induction passes generalizing unread characters with
  | zero => cases enough
  | succ passes induction =>
      cases unread with
      | nil =>
          apply Performs.repeated_error
          exact performs_bump_nil.bind (performs_throw _ [])
      | cons first rest =>
          have enoughBelow : rest.length < passes := Nat.lt_of_succ_lt_succ enough
          by_cases quote : first = '"'
          · subst quote
            rw [readString_quote]
            apply Performs.repeated_leave
            refine (performs_bump_cons _ rest).bind ?_
            simp only [if_true, List.append_nil]
            exact performs_pure _ rest
          by_cases backslash : first = '\\'
          · subst backslash
            rw [readString_backslash]
            have escaped : Agrees content (escape content) rest (readEscape rest) :=
              agrees_escape rest
            cases read : readEscape rest with
            | error failure =>
                rw [read] at escaped
                apply Performs.repeated_error
                refine (performs_bump_cons _ rest).bind ?_
                exact escaped.bind_error
            | ok part =>
                rw [read] at escaped
                have shorter : part.2.length ≤ rest.length := escaped.suffix.length_le
                rw [ok_bind, mapPart_prependCharacter]
                refine Performs.repeated_again ?_ (Nat.lt_succ_of_le shorter)
                  (induction (shorter.trans_lt enoughBelow) _)
                refine (performs_bump_cons _ rest).bind ?_
                exact Performs.bind escaped (performs_pure _ _)
          · rw [readString_plain quote backslash, mapPart_prependCharacter]
            refine Performs.repeated_again ?_ (Nat.lt_succ_self _) (induction enoughBelow _)
            refine (performs_bump_cons first rest).bind ?_
            simp only [quote, backslash, if_false]
            exact performs_pure _ rest

theorem agrees_string (enough : ('"' :: rest).length < fuel) :
    Agrees content (string content fuel) ('"' :: rest) (readString rest) := by
  have enoughBelow : rest.length < fuel := Nat.lt_of_succ_lt enough
  have characters : Agrees content _ rest (mapPart ([] ++ ·) (readString rest)) :=
    agrees_characters enoughBelow []
  have nothing : mapPart ([] ++ ·) (readString rest) = readString rest := by
    cases readString rest <;> rfl
  rw [nothing] at characters
  exact (performs_open (by decide) enough).bind characters

/-! ## Numbers -/

def numberPass (content : List Char) (fractional : Bool) : Scan (Bool ⊕ Bool) := do
  match ← peek content with
  | none => return .inr fractional
  | some character =>
    if isDigit character then
      let _ ← bump content
      return .inl fractional
    else if character = '.' ∨ character = 'e' ∨ character = 'E' ∨ character = '+' then
      let _ ← bump content
      return .inl true
    else if character = '-' ∧ fractional then
      let _ ← bump content
      return .inl fractional
    else return .inr fractional

theorem performs_numberPass_of_some {fractional next : Bool} {first : Char}
    (goesOn : nextFractional? fractional first = some next) (rest : List Char) :
    Performs content (numberPass content fractional) (first :: rest) (.ok (.inl next)) rest := by
  refine (performs_peek (first :: rest)).bind ?_
  unfold nextFractional? at goesOn
  simp only [List.head?_cons]
  split_ifs at goesOn ⊢ with digit mark minus <;> cases goesOn <;>
    exact (performs_bump_cons first rest).bind (performs_pure _ rest)

theorem performs_numberPass_of_none {fractional : Bool} {first : Char}
    (ends : nextFractional? fractional first = none) (rest : List Char) :
    Performs content (numberPass content fractional) (first :: rest) (.ok (.inr fractional))
      (first :: rest) := by
  refine (performs_peek (first :: rest)).bind ?_
  unfold nextFractional? at ends
  simp only [List.head?_cons]
  split_ifs at ends ⊢ with digit mark minus
  exact performs_pure _ (first :: rest)

theorem performs_digits {passes : Nat} (enough : unread.length < passes) (fractional : Bool) :
    Performs content (repeated (numberPass content) passes fractional) unread
      (.ok (scanNumber fractional unread).1.1) (scanNumber fractional unread).2 := by
  induction passes generalizing unread fractional with
  | zero => cases enough
  | succ passes induction =>
      cases unread with
      | nil =>
          rw [scanNumber_nil]
          apply Performs.repeated_leave
          exact (performs_peek []).bind (performs_pure _ [])
      | cons first rest =>
          cases next : nextFractional? fractional first with
          | none =>
              rw [scanNumber_cons_of_none next]
              exact (performs_numberPass_of_none next rest).repeated_leave
          | some following =>
              rw [scanNumber_cons_of_some next]
              exact (performs_numberPass_of_some next rest).repeated_again (Nat.lt_succ_self _)
                (induction (Nat.lt_of_succ_lt_succ enough) following)

def passNumber (content : List Char) (fuel : Nat) : Scan Bool := do
  if (← peek content) = some '-' then
    let _ ← bump content
    repeated (numberPass content) fuel false
  else repeated (numberPass content) fuel false

theorem performs_passNumber (enough : unread.length < fuel) :
    Performs content (passNumber content fuel) unread (.ok (scanSignedNumber unread).1.1)
      (scanSignedNumber unread).2 := by
  refine (performs_peek unread).bind ?_
  cases unread with
  | nil => exact performs_digits enough false
  | cons first rest =>
      by_cases minus : first = '-'
      · subst minus
        simp only [List.head?_cons, if_true]
        refine (performs_bump_cons _ rest).bind ?_
        exact performs_digits (Nat.lt_of_succ_lt enough) false
      · simp only [List.head?_cons, Option.some.injEq, minus, if_false]
        rw [scanSignedNumber_of_ne_minus minus]
        exact performs_digits enough false

theorem scanSignedNumber_append (input : List Char) :
    input = (scanSignedNumber input).1.2 ++ (scanSignedNumber input).2 := by
  unfold scanSignedNumber
  split
  · next rest => exact congrArg ('-' :: ·) (scanNumber_split (rfl : scanNumber false rest = _)).1
  · exact (scanNumber_split rfl).1

def number (content : List Char) (fuel : Nat) : Scan Number := do
  let (fractional, token) ← spanned content (passNumber content fuel)
  match numberOfToken? fractional token with
  | some value => return value
  | none => throw (.invalidNumber token)

theorem agrees_number (enough : unread.length < fuel) :
    Agrees content (number content fuel) unread (readNumber unread) := by
  have passed : Performs content (passNumber content fuel)
      ((scanSignedNumber unread).1.2 ++ (scanSignedNumber unread).2)
      (.ok (scanSignedNumber unread).1.1) (scanSignedNumber unread).2 := by
    rw [← scanSignedNumber_append]
    exact performs_passNumber enough
  have token := performs_spanned passed
  rw [← scanSignedNumber_append] at token
  refine token.bind ?_
  simp only [readNumber]
  cases numberOfToken? (scanSignedNumber unread).1.1 (scanSignedNumber unread).1.2 with
  | none => exact performs_throw _ _
  | some value => exact performs_pure value _

/-! ## Names of members -/

def key (content : List Char) (fuel : Nat) : Scan (List Char) := do
  match ← peek content with
  | none => throw .expectedKey
  | some first =>
    if first = '"' then string content fuel
    else if isIdentifierStart first then word content fuel
    else throw .expectedKey

theorem agrees_key (enough : unread.length < fuel) :
    Agrees content (key content fuel) unread (readKey unread) := by
  refine (performs_peek unread).bind ?_
  cases unread with
  | nil => exact performs_throw _ []
  | cons first rest =>
      simp only [List.head?_cons, readKey]
      split_ifs with quote start
      · subst quote
        exact agrees_string enough
      · exact performs_word enough
      · exact performs_throw _ (first :: rest)

end Cursor

end Value

end EntitySchema
