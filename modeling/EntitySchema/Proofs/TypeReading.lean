import Mathlib
import EntitySchema.Proofs.ExpressionStep
import EntitySchema.Proofs.Number.Text
import EntitySchema.Proofs.TypeForm
import EntitySchema.Proofs.Value.RoundTrip
/-!
How a type expression is read.

Parentheses stand around the element of an array if a bar occurs anywhere in it, be it in a string
or deep inside an object. The reader does not need to know why they are there: a form ends where no
bar follows a variant, and a variant goes on as long as brackets of arrays follow it. So it finds
the form of each type in its expression, and types with the same expression have the same form.
-/

namespace EntitySchema

namespace TypeExpression

/-! ## The reader -/

def isWordPart (character : Char) : Bool := character.isAlpha || isNumeralPart character

def isTypePart (character : Char) : Bool := isWordPart character || character == '['

def fixedWords : List (String × TypeVariant) :=
  [("string", .scalar .string), ("number", .scalar .number), ("boolean", .scalar .boolean),
    ("null", .null), ("unknown", .unknown), ("true", .truth true), ("false", .truth false)]

def ofWord (word : List Char) : TypeVariant :=
  match fixedWords.find? fun entry => entry.1.toList == word with
  | some entry => entry.2
  | none => .numeral (String.ofList word)

def readArrays : TypeVariant → List Char → TypeVariant × List Char
  | variant, '[' :: ']' :: rest => readArrays (.array [variant]) rest
  | variant, rest => (variant, rest)

def readMark : List Char → Bool × List Char
  | '?' :: rest => (true, rest)
  | rest => (false, rest)

mutual

@[simp] def readForm : Nat → List Char → Option (TypeForm × List Char)
  | 0, _ => none
  | fuel + 1, input => do
    let (variant, rest) ← readVariant fuel input
    let (others, rest) ← readOthers fuel rest
    return (variant :: others, rest)

@[simp] def readOthers : Nat → List Char → Option (TypeForm × List Char)
  | 0, _ => none
  | fuel + 1, ' ' :: '|' :: ' ' :: rest => readForm fuel rest
  | _ + 1, rest => some ([], rest)

@[simp] def readVariant : Nat → List Char → Option (TypeVariant × List Char)
  | 0, _ => none
  | fuel + 1, input => do
    let (variant, rest) ← readPrimary fuel input
    return readArrays variant rest

@[simp] def readPrimary : Nat → List Char → Option (TypeVariant × List Char)
  | 0, _ => none
  | fuel + 1, '(' :: input =>
    match readForm fuel input with
    | some (element, ')' :: '[' :: ']' :: rest) => some (.array element, rest)
    | _ => none
  | fuel + 1, '[' :: input => do
    let (items, rest) ← readItems fuel input
    return (.tuple items, rest)
  | _ + 1, '{' :: '}' :: rest => some (.object [], rest)
  | fuel + 1, '{' :: ' ' :: input => do
    let (members, rest) ← readMembers fuel input
    return (.object members, rest)
  | _ + 1, '"' :: input =>
    match Value.readString input with
    | .ok (value, rest) => some (.text (String.ofList value), rest)
    | .error _ => none
  | _ + 1, input =>
    match input.takeWhile isWordPart with
    | [] => none
    | word => some (ofWord word, input.dropWhile isWordPart)

@[simp] def readItems : Nat → List Char → Option (List TypeForm × List Char)
  | 0, _ => none
  | _ + 1, ']' :: rest => some ([], rest)
  | fuel + 1, input =>
    match readForm fuel input with
    | some (item, ',' :: ' ' :: rest) => do
      let (items, rest) ← readItems fuel rest
      return (item :: items, rest)
    | some (item, ']' :: rest) => some ([item], rest)
    | _ => none

@[simp] def readMembers : Nat → List Char → Option (List (String × Bool × TypeForm) × List Char)
  | 0, _ => none
  | _ + 1, '}' :: rest => some ([], rest)
  | fuel + 1, input =>
    match Value.readKey input with
    | .error _ => none
    | .ok (key, rest) =>
      let (optional, rest) := readMark rest
      match rest with
      | ':' :: ' ' :: rest =>
        match readForm fuel rest with
        | some (type, ';' :: ' ' :: rest) => do
          let (members, rest) ← readMembers fuel rest
          return ((String.ofList key, optional, type) :: members, rest)
        | _ => none
      | _ => none

end

def Reads {α : Type} (read : Nat → List Char → Option (α × List Char)) (input : List Char)
    (value : α) (unread : List Char) : Prop :=
  ∀ᶠ fuel in Filter.atTop, read fuel input = some (value, unread)

variable {input rest unread text : List Char} {variant : TypeVariant} {form others : TypeForm}

theorem Reads.unique {α : Type} {read : Nat → List Char → Option (α × List Char)} {left right : α}
    {unread other : List Char} (first : Reads read input left unread)
    (second : Reads read input right other) : left = right := by
  rcases (first.and second).exists with ⟨fuel, ofLeft, ofRight⟩
  cases ofLeft.symm.trans ofRight
  rfl

theorem reads_of_succ {α : Type} {read : Nat → List Char → Option (α × List Char)} {value : α}
    (eventually : ∀ᶠ fuel in Filter.atTop, read (fuel + 1) input = some (value, unread)) :
    Reads read input value unread := by
  rwa [Reads, ← Filter.map_add_atTop_eq_nat 1, Filter.eventually_map]

theorem reads_of_forall_succ {α : Type} {read : Nat → List Char → Option (α × List Char)}
    {value : α} (always : ∀ fuel, read (fuel + 1) input = some (value, unread)) :
    Reads read input value unread :=
  reads_of_succ (.of_forall always)

/-! ## One step of the reader -/

theorem reads_form (first : Reads readVariant input variant rest)
    (following : Reads readOthers rest others unread) :
    Reads readForm input (variant :: others) unread := by
  apply reads_of_succ
  filter_upwards [first, following] with fuel ofFirst ofFollowing
  simp [ofFirst, ofFollowing]

theorem reads_others_bar (following : Reads readForm input form unread) :
    Reads readOthers (' ' :: '|' :: ' ' :: input) form unread := by
  apply reads_of_succ
  filter_upwards [following] with fuel ofFollowing
  simpa using ofFollowing

theorem reads_others_end (ends : StopsAt (· == ' ') rest) : Reads readOthers rest [] rest := by
  apply reads_of_forall_succ
  intro fuel
  rw [readOthers]
  rintro tail rfl
  simp at ends

theorem reads_variant (first : Reads readPrimary input variant rest) :
    Reads readVariant input (readArrays variant rest).1 (readArrays variant rest).2 := by
  apply reads_of_succ
  filter_upwards [first] with fuel ofFirst
  simp [ofFirst]

theorem reads_parenthesized (inside : Reads readForm input form (')' :: '[' :: ']' :: rest)) :
    Reads readPrimary ('(' :: input) (.array form) rest := by
  apply reads_of_succ
  filter_upwards [inside] with fuel ofInside
  simp [ofInside]

theorem reads_tuple {items : List TypeForm} (inside : Reads readItems input items rest) :
    Reads readPrimary ('[' :: input) (.tuple items) rest := by
  apply reads_of_succ
  filter_upwards [inside] with fuel ofInside
  simp [ofInside]

theorem reads_object_empty : Reads readPrimary ('{' :: '}' :: rest) (.object []) rest := by
  apply reads_of_forall_succ
  intro fuel
  simp

theorem reads_object {members : List (String × Bool × TypeForm)}
    (inside : Reads readMembers input members rest) :
    Reads readPrimary ('{' :: ' ' :: input) (.object members) rest := by
  apply reads_of_succ
  filter_upwards [inside] with fuel ofInside
  simp [ofInside]

theorem reads_quoted (value : String) :
    Reads readPrimary (quotedChars value.toList ++ rest) (.text value) rest := by
  apply reads_of_forall_succ
  intro fuel
  rw [Value.quotedChars_append]
  simp [Value.readString_flatMap_escapeCharacter]

theorem reads_word {word : List Char} (nonempty : word ≠ [])
    (allParts : ∀ character ∈ word, isWordPart character) (stops : StopsAt isWordPart rest) :
    Reads readPrimary (word ++ rest) (ofWord word) rest := by
  have taken := takeWhile_append_of_stopsAt allParts stops
  have dropped := dropWhile_append_of_stopsAt allParts stops
  cases word with
  | nil => exact absurd rfl nonempty
  | cons first word =>
      have part := allParts first List.mem_cons_self
      apply reads_of_forall_succ
      intro fuel
      rw [List.cons_append] at taken dropped ⊢
      rw [readPrimary]
      · simp only [taken, dropped]
      -- A word does not start like any of the other variants.
      all_goals
        rintro _ equal
        rcases List.cons.inj equal with ⟨rfl, _⟩
        cases part

theorem readForm_bracket (fuel : Nat) (rest : List Char) : readForm fuel (']' :: rest) = none := by
  rcases fuel with _ | _ | _ | fuel <;> simp [isWordPart, isNumeralPart, isDigit]

theorem reads_items_end : Reads readItems (']' :: rest) [] rest := by
  apply reads_of_forall_succ
  intro fuel
  rw [readItems]

theorem reads_items_last (last : Reads readForm input form (']' :: rest)) :
    Reads readItems input [form] rest := by
  apply reads_of_succ
  filter_upwards [last] with fuel ofLast
  rw [readItems]
  · simp [ofLast]
  · rintro tail rfl
    simp [readForm_bracket] at ofLast

theorem reads_items_more {items : List TypeForm}
    (first : Reads readForm input form (',' :: ' ' :: rest))
    (following : Reads readItems rest items unread) :
    Reads readItems input (form :: items) unread := by
  apply reads_of_succ
  filter_upwards [first, following] with fuel ofFirst ofFollowing
  rw [readItems]
  · simp [ofFirst, ofFollowing]
  · rintro tail rfl
    simp [readForm_bracket] at ofFirst

theorem reads_members_end (rest : List Char) : Reads readMembers ('}' :: rest) [] rest := by
  apply reads_of_forall_succ
  intro fuel
  rw [readMembers]

def withMark (optional : Bool) (rest : List Char) : List Char :=
  if optional then '?' :: rest else rest

theorem readMark_withMark (optional : Bool) (rest : List Char) :
    readMark (withMark optional (':' :: rest)) = (optional, ':' :: rest) := by
  cases optional <;> rfl

theorem readKey_ofMember (property : Property) (type rest : List Char) :
    Value.readKey (ofMember property type ++ rest) =
      .ok (property.name.toList, withMark property.optional (':' :: ' ' :: (type ++ rest))) := by
  have stops : StopsAt isIdentifierPart
      (withMark property.optional (':' :: ' ' :: (type ++ rest))) := by
    cases property.optional <;> exact (stopsAt_cons ..).mpr rfl
  rw [← Value.readKey_of_spellsKey (Value.spellsKey_keyChars property.name) stops, ofMember]
  cases property.optional <;> simp [withMark]

theorem reads_members_more (property : Property) {members : List (String × Bool × TypeForm)}
    (first : Reads readForm (text ++ ';' :: ' ' :: rest) form (';' :: ' ' :: rest))
    (following : Reads readMembers rest members unread) :
    Reads readMembers (ofMember property text ++ ';' :: ' ' :: rest)
      ((property.name, property.optional, form) :: members) unread := by
  have key := readKey_ofMember property text (';' :: ' ' :: rest)
  apply reads_of_succ
  filter_upwards [first, following] with fuel ofFirst ofFollowing
  rw [readMembers]
  · simp only [key, readMark_withMark, ofFirst]
    simp [ofFollowing]
  · rintro tail equal
    rw [equal] at key
    cases key

/-! ## What is written can be read -/

/-- The text is read as the variant, and as an array of it if brackets follow. -/
def IsVariant (text : List Char) (variant : TypeVariant) : Prop :=
  ∀ rest, StopsAt isWordPart rest →
    Reads readVariant (text ++ rest) (readArrays variant rest).1 (readArrays variant rest).2

/-- The text is read as the form, in front of further variants too, and without a bar in it, it is
read as the only variant of the form. -/
structure IsForm (text : List Char) (form : TypeForm) : Prop where
  reads : ∀ rest others unread, StopsAt isTypePart rest → Reads readOthers rest others unread →
    Reads readForm (text ++ rest) (form ++ others) unread
  single : hasBar text = false → ∃ variant, form = [variant] ∧ IsVariant text variant

theorem readArrays_of_stopsAt (stops : StopsAt isTypePart rest) (variant : TypeVariant) :
    readArrays variant rest = (variant, rest) := by
  rw [readArrays]
  rintro tail rfl
  cases (stopsAt_cons ..).mp stops

theorem IsVariant.isForm (isVariant : IsVariant text variant) : IsForm text [variant] where
  reads rest others unread stops following := by
    have stopsWord : StopsAt isWordPart rest := by
      intro first member
      exact (Bool.or_eq_false_iff.mp (stops first member)).1
    have read := isVariant rest stopsWord
    rw [readArrays_of_stopsAt stops] at read
    exact reads_form read following
  single _ := ⟨variant, rfl, isVariant⟩

/-- A form is read up to a character that neither goes on with it nor starts a bar. -/
theorem IsForm.reads_before (isForm : IsForm text form) {next : Char}
    (stops : isTypePart next = false) (noBar : next ≠ ' ') (rest : List Char) :
    Reads readForm (text ++ next :: rest) form (next :: rest) := by
  have ends : Reads readOthers (next :: rest) [] (next :: rest) := by
    apply reads_others_end
    simpa using noBar
  simpa using isForm.reads (next :: rest) [] _ ((stopsAt_cons ..).mpr stops) ends

theorem IsForm.reads_all (isForm : IsForm text form) : Reads readForm text form [] := by
  simpa using isForm.reads [] [] [] (stopsAt_nil _) (reads_others_end (stopsAt_nil _))

/-! ### Words and literals -/

theorem isVariant_word {word : List Char} (nonempty : word ≠ [])
    (allParts : ∀ character ∈ word, isWordPart character) : IsVariant word (ofWord word) :=
  fun _ stops => reads_variant (reads_word nonempty allParts stops)

theorem isVariant_fixedWord {word : String} (member : (word, variant) ∈ fixedWords) :
    IsVariant word.toList variant := by
  have spelled : ∀ entry ∈ fixedWords, entry.1.toList ≠ [] ∧
      ∀ character ∈ entry.1.toList, isWordPart character = true := by
    simp [fixedWords, isWordPart, isNumeralPart, isDigit]
  have same : ofWord word.toList = variant := by
    simp only [fixedWords, List.mem_cons, List.not_mem_nil, or_false] at member
    rcases member with equal | equal | equal | equal | equal | equal | equal <;> cases equal <;> rfl
  rw [← same]
  exact isVariant_word (spelled _ member).1 (spelled _ member).2

/-- Each of the words has a letter that no number has. -/
theorem ofWord_numeral (value : Number) : ofWord value.chars = .numeral value.text := by
  have foreign : ∀ entry ∈ fixedWords,
      ∃ character ∈ entry.1.toList, isNumeralPart character = false := by
    simp [fixedWords, isNumeralPart, isDigit]
  have unknown : (fixedWords.find? fun entry => entry.1.toList == value.chars) = none := by
    rw [List.find?_eq_none]
    intro entry member equal
    rcases foreign entry member with ⟨character, inWord, notPart⟩
    rw [beq_iff_eq] at equal
    rw [equal] at inWord
    cases notPart.symm.trans (Number.isNumeralPart_of_mem_chars character inWord)
  rw [ofWord, unknown, Number.text]

theorem isVariant_numeral (value : Number) : IsVariant value.chars (.numeral value.text) := by
  rw [← ofWord_numeral]
  refine isVariant_word value.chars_ne_nil fun character member => ?_
  simp [isWordPart, Number.isNumeralPart_of_mem_chars character member]

theorem isVariant_quoted (value : String) : IsVariant (quotedChars value.toList) (.text value) :=
  fun _ _ => reads_variant (reads_quoted value)

theorem isVariant_ofLiteral (literal : Literal) :
    IsVariant (ofLiteral literal) (.ofLiteral literal) := by
  cases literal with
  | text value => exact isVariant_quoted value
  | number value => exact isVariant_numeral value

/-! ### Arrays -/

theorem isVariant_ofArray (isForm : IsForm text form) : IsVariant (ofArray text) (.array form) := by
  intro rest stops
  by_cases bar : hasBar text = true
  · have inside := isForm.reads_before rfl (by decide : ')' ≠ ' ') ('[' :: ']' :: rest)
    rw [ofArray, if_pos bar]
    simpa using reads_variant (reads_parenthesized inside)
  · have noBar : hasBar text = false := by simpa using bar
    rcases isForm.single noBar with ⟨variant, rfl, isVariant⟩
    -- The brackets are part of what follows the element.
    have read := isVariant ('[' :: ']' :: rest) ((stopsAt_cons ..).mpr rfl)
    rw [ofArray, if_neg bar]
    simpa [readArrays] using read

/-! ### Unions -/

theorem hasBar_append_bar (before after : List Char) :
    hasBar (before ++ ' ' :: '|' :: ' ' :: after) = true := by
  induction before with
  | nil => rfl
  | cons first before induction =>
      rw [List.cons_append, hasBar.eq_def]
      split
      · rfl
      · next equal =>
          rw [← (List.cons.inj equal).2]
          exact induction
      · next equal => cases equal

section Lists

variable {α : Type} {items : List α} {textOf : α → List Char} {formOf : α → TypeForm}

theorem isForm_ofVariants (nonempty : items ≠ [])
    (each : ∀ item ∈ items, IsForm (textOf item) (formOf item)) :
    IsForm (ofVariants (items.map textOf)) (items.flatMap formOf) := by
  induction items with
  | nil => exact absurd rfl nonempty
  | cons item following induction =>
      rcases List.forall_mem_cons.mp each with ⟨ofItem, ofFollowing⟩
      cases following with
      | nil => simpa [ofVariants] using ofItem
      | cons next following =>
          have ofRest := induction (List.cons_ne_nil _ _) ofFollowing
          have written : ofVariants ((item :: next :: following).map textOf) =
              textOf item ++ ' ' :: '|' :: ' ' :: ofVariants ((next :: following).map textOf) := by
            simp [ofVariants, List.intercalate_cons_cons]
          rw [written, List.flatMap_cons]
          constructor
          · intro rest others unread stops read
            have readRest := reads_others_bar (ofRest.reads rest others unread stops read)
            simpa using ofItem.reads _ _ _ ((stopsAt_cons ..).mpr rfl) readRest
          · intro noBar
            rw [hasBar_append_bar] at noBar
            cases noBar

/-! ### Tuples and objects -/

theorem reads_items (nonempty : items ≠ [])
    (each : ∀ item ∈ items, IsForm (textOf item) (formOf item)) (rest : List Char) :
    Reads readItems (List.intercalate ", ".toList (items.map textOf) ++ ']' :: rest)
      (items.map formOf) rest := by
  induction items with
  | nil => exact absurd rfl nonempty
  | cons item following induction =>
      rcases List.forall_mem_cons.mp each with ⟨ofItem, ofFollowing⟩
      cases following with
      | nil =>
          have read := ofItem.reads_before rfl (by decide : ']' ≠ ' ') rest
          simpa using reads_items_last read
      | cons next following =>
          have readRest := induction (List.cons_ne_nil _ _) ofFollowing
          have read := reads_items_more (ofItem.reads_before rfl (by decide) _) readRest
          simpa [List.intercalate_cons_cons] using read

theorem isVariant_ofTuple (each : ∀ item ∈ items, IsForm (textOf item) (formOf item)) :
    IsVariant (ofTuple (items.map textOf)) (.tuple (items.map formOf)) := by
  intro rest _
  by_cases empty : items = []
  · subst empty
    exact reads_variant (reads_tuple reads_items_end)
  · have read := reads_variant (reads_tuple (reads_items empty each rest))
    simpa [ofTuple] using read

end Lists

section Objects

variable {properties : List Property} {textOf : Property → List Char}
  {formOf : Property → TypeForm}

theorem reads_members (nonempty : properties ≠ [])
    (each : ∀ property ∈ properties, IsForm (textOf property) (formOf property))
    (rest : List Char) :
    Reads readMembers
      (List.intercalate "; ".toList
        (properties.map fun property => ofMember property (textOf property)) ++
          ';' :: ' ' :: '}' :: rest)
      (properties.map fun property => (property.name, property.optional, formOf property))
      rest := by
  induction properties with
  | nil => exact absurd rfl nonempty
  | cons property following induction =>
      rcases List.forall_mem_cons.mp each with ⟨ofProperty, ofFollowing⟩
      cases following with
      | nil =>
          have read := reads_members_more property (ofProperty.reads_before rfl (by decide) _)
            (reads_members_end rest)
          simpa using read
      | cons next following =>
          have readRest := induction (List.cons_ne_nil _ _) ofFollowing
          have read := reads_members_more property (ofProperty.reads_before rfl (by decide) _)
            readRest
          simpa [List.intercalate_cons_cons] using read

theorem isVariant_ofMembers
    (each : ∀ property ∈ properties, IsForm (textOf property) (formOf property)) :
    IsVariant (ofMembers (properties.map fun property => ofMember property (textOf property)))
      (.object (properties.map fun property =>
        (property.name, property.optional, formOf property))) := by
  intro rest _
  by_cases empty : properties = []
  · subst empty
    exact reads_variant reads_object_empty
  · have read := reads_variant (reads_object (reads_members empty each rest))
    simpa [ofMembers, empty] using read

end Objects

/-! ## Types and their expressions -/

variable {graph : Graph}

/-- A type that can be written has a form, and is read as that form. -/
theorem exists_isForm_of_walk {depth : Nat} {opened : List TypeId} {id : TypeId}
    {written : List Char} (walked : walk graph depth opened id = .ok written) :
    ∃ form, graph.HasForm id form ∧ IsForm written form := by
  induction depth generalizing opened id written with
  | zero => cases walked
  | succ depth induction =>
      cases hasElement : graph.element? id with
      | some element =>
          rw [walk_of_element? hasElement, map_eq_ok_iff] at walked
          rcases walked with ⟨text, ofElement, rfl⟩
          rcases induction ofElement with ⟨form, hasForm, isForm⟩
          exact ⟨_, .array hasElement hasForm, (isVariant_ofArray isForm).isForm⟩
      | none =>
          cases found : graph.get? id with
          | none => simp [walk, Graph.get, found, fromGraph] at walked
          | some node =>
              have step := walked
              rw [walk, Graph.fromGraph_get_of_get? found, ok_bind] at step
              cases node with
              | scalar scalar =>
                  rcases (walk_scalar_eq_ok_iff found).mp walked with ⟨kind, ofScalar, rfl⟩
                  refine ⟨_, .scalar found ofScalar, (isVariant_fixedWord ?_).isForm⟩
                  cases kind <;> simp [fixedWords, ScalarKind.name]
              | array element => simp [Graph.element?, found] at hasElement
              | record record =>
                  have shape : record.arrayElement? = none := by
                    simpa [Graph.element?, found] using hasElement
                  rcases (walk_plainRecord_eq_ok_iff found shape).mp walked with
                    ⟨below, properties, text, _, ofRecord, walks, rfl⟩
                  choose! form hasForm isForm using
                    fun property (member : property ∈ properties) =>
                      induction (walks property member)
                  exact ⟨_, .object found shape ofRecord hasForm,
                    (isVariant_ofMembers isForm).isForm⟩
              | enum enum =>
                  rcases (walk_enum_eq_ok_iff found).mp walked with ⟨members, rfl⟩
                  have nonempty : enum.values ≠ [] := by
                    simpa [EnumType.values] using members
                  have isForm := isForm_ofVariants nonempty fun literal _ =>
                    (isVariant_ofLiteral literal).isForm
                  rw [← List.map_eq_flatMap] at isForm
                  exact ⟨_, .enum found members, isForm⟩
              | union union =>
                  rcases (walk_union_eq_ok_iff found).mp walked with ⟨nonempty, text, walks, rfl⟩
                  choose! form hasForm isForm using
                    fun variant (member : variant ∈ union.variants) =>
                      induction (walks variant member)
                  exact ⟨_, .union found nonempty hasForm, isForm_ofVariants nonempty isForm⟩
              | tuple items =>
                  rcases (walk_tuple_eq_ok_iff found).mp walked with ⟨text, walks, rfl⟩
                  choose! form hasForm isForm using
                    fun item (member : item ∈ items) => induction (walks item member)
                  exact ⟨_, .tuple found hasForm, (isVariant_ofTuple isForm).isForm⟩
              | stringLiteral value =>
                  cases step
                  exact ⟨_, .text found, (isVariant_quoted value).isForm⟩
              | numericLiteral value =>
                  cases step
                  exact ⟨_, .numeral found, (isVariant_numeral value).isForm⟩
              | booleanLiteral value =>
                  cases step
                  refine ⟨_, .truth found, (isVariant_fixedWord ?_).isForm⟩
                  cases value <;> simp [fixedWords, boolText]
              | null =>
                  cases step
                  exact ⟨_, .null found, (isVariant_fixedWord (by simp [fixedWords])).isForm⟩
              | unknown =>
                  cases step
                  exact ⟨_, .unknown found, (isVariant_fixedWord (by simp [fixedWords])).isForm⟩
              | void => cases step
              | never => cases step

end TypeExpression

namespace Graph

variable {graph : Graph} {i j : TypeId} {left right : String}

theorem exists_isForm_of_typeExpression {id : TypeId} {expression : String}
    (ofId : graph.typeExpression id = .ok expression) :
    ∃ form, graph.HasForm id form ∧ TypeExpression.IsForm expression.toList form := by
  rcases typeExpression_eq_ok_iff.mp ofId with ⟨written, walked, rfl⟩
  rw [String.toList_ofList]
  exact TypeExpression.exists_isForm_of_walk walked

/-- Types with the same expression have the same form. So an array never has the expression of a
union of several variants, whatever the last of them is. -/
theorem form_eq_of_typeExpression_eq (ofLeft : graph.typeExpression i = .ok left)
    (ofRight : graph.typeExpression j = .ok right) :
    (∃! form, graph.HasForm i form) ∧ (∃! form, graph.HasForm j form) ∧
      (left = right → ∀ first second, graph.HasForm i first → graph.HasForm j second →
        first = second) ∧
      ∀ element union, graph.element? i = some element → graph.get? j = some (.union union) →
        2 ≤ union.variants.length → left ≠ right := by
  rcases exists_isForm_of_typeExpression ofLeft with ⟨leftForm, hasLeft, isLeft⟩
  rcases exists_isForm_of_typeExpression ofRight with ⟨rightForm, hasRight, isRight⟩
  have same (equal : left = right) : leftForm = rightForm := by
    subst equal
    exact isLeft.reads_all.unique isRight.reads_all
  refine ⟨⟨leftForm, hasLeft, fun _ other => other.unique hasLeft⟩,
    ⟨rightForm, hasRight, fun _ other => other.unique hasRight⟩, ?_, ?_⟩
  · intro equal first second ofFirst ofSecond
    rw [ofFirst.unique hasLeft, ofSecond.unique hasRight, same equal]
  · intro element union hasElement found several equal
    rcases hasLeft.exists_of_element? hasElement with ⟨items, rfl⟩
    have counted := hasRight.length_variants_le found
    rw [← same equal, List.length_singleton] at counted
    omega

def switchGraph : Graph :=
  { types := #[.enum { name := "Switch", members := [⟨"on", none⟩, ⟨"off", none⟩] }, .array ⟨0⟩,
      .stringLiteral "on", .stringLiteral "off", .union { variants := [⟨2⟩, ⟨3⟩] }, .array ⟨4⟩,
      .array ⟨3⟩, .union { variants := [⟨2⟩, ⟨6⟩] }] }

theorem form_eq_switchGraph :
    switchGraph.typeExpression ⟨1⟩ = .ok "(\"on\" | \"off\")[]" ∧
      switchGraph.typeExpression ⟨5⟩ = .ok "(\"on\" | \"off\")[]" ∧
      switchGraph.typeExpression ⟨7⟩ = .ok "\"on\" | \"off\"[]" ∧
      (∀ first second, switchGraph.HasForm ⟨1⟩ first → switchGraph.HasForm ⟨5⟩ second →
        first = second) ∧
      "(\"on\" | \"off\")[]" ≠ "\"on\" | \"off\"[]" := by
  have ofEnum : switchGraph.typeExpression ⟨1⟩ = .ok "(\"on\" | \"off\")[]" := by
    decide +kernel
  have ofUnion : switchGraph.typeExpression ⟨5⟩ = .ok "(\"on\" | \"off\")[]" := by
    decide +kernel
  have ofArray : switchGraph.typeExpression ⟨7⟩ = .ok "\"on\" | \"off\"[]" := by
    decide +kernel
  refine ⟨ofEnum, ofUnion, ofArray, ?_, ?_⟩
  · exact (form_eq_of_typeExpression_eq ofEnum ofUnion).2.2.1 rfl
  · exact (form_eq_of_typeExpression_eq ofUnion ofArray).2.2.2 ⟨4⟩ _ rfl rfl (by decide)

end Graph

end EntitySchema
