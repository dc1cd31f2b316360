import Mathlib
import EntitySchema.Proofs.Value.Cursor
/-!
The reader stays between two characters.

Values are scanned by bytes as they are read, so a run of the scan tells where the reader stands:
always between two characters of the text, never behind a place where it has been, and further on
after each pass of a loop than before it. The scan ends, and where it fails is the offset of the
error.
-/

namespace EntitySchema

namespace Value

namespace Cursor

variable {σ τ : Type} {content unread rest : List Char} {fuel : Nat}

/-! ## Parts of a list or a record -/

def partPass (content : List Char) (fuel : Nat) (close : Char) (fault : ReadFault)
    (part : σ → Scan σ) (state : σ) : Scan (σ ⊕ σ) := do
  passWhile content isBlank fuel
  if (← peek content) = some close then
    let _ ← bump content
    return .inr state
  else
    let state ← part state
    if ← separator content fuel close fault then return .inl state else return .inr state

section Parts

variable {close : Char} {fault : ReadFault} {part : σ → Scan σ} {state : σ}
  {passes bound : Nat}

theorem performs_parts_close (enough : unread.length < fuel)
    (closed : skipBlank unread = close :: rest) :
    Performs content (repeated (partPass content fuel close fault part) (passes + 1) state) unread
      (.ok state) rest := by
  apply Performs.repeated_leave
  refine (performs_skipBlank enough).bind ?_
  rw [closed]
  refine (performs_peek _).bind ?_
  simp only [List.head?_cons, if_true]
  exact (performs_bump_cons close rest).bind (performs_pure _ rest)

theorem agrees_partPass {reading : Reading (σ × List Char)} (enough : unread.length < fuel)
    (notClosed : (skipBlank unread).head? ≠ some close)
    (ofPart : Agrees content (part state) (skipBlank unread) reading) :
    Agrees content (partPass content fuel close fault part state) unread
      (reading >>= fun part => readSeparator close fault part.2 >>= fun found =>
        .ok (if found.1 then .inl part.1 else .inr part.1, found.2)) := by
  have skipped : Performs content _ unread _ (skipBlank unread) := performs_skipBlank enough
  refine skipped.bind ?_
  refine (performs_peek _).bind ?_
  rw [if_neg notClosed]
  refine ofPart.bind fun next afterPart _ suffix => ?_
  have enoughBelow : afterPart.length < fuel :=
    (suffix.trans skipped.suffix).length_le.trans_lt enough
  refine (agrees_separator enoughBelow close fault).bind fun another after _ _ => ?_
  cases another with
  | false => exact performs_pure _ after
  | true => exact performs_pure _ after

/-- The parts are read one after another up to the character that closes them, and gathered. -/
structure Gathers (close : Char) (fault : ReadFault)
    (readPart : Nat → σ → List Char → Reading (σ × List Char))
    (readParts : Nat → List Char → Reading (τ × List Char)) (gather : σ → τ → σ) : Prop where
  stops : ∀ depth state {unread rest}, skipBlank unread = close :: rest →
    mapPart (gather state) (readParts (depth + 1) unread) = .ok (state, rest)
  goesOn : ∀ depth state {unread}, (skipBlank unread).head? ≠ some close →
    mapPart (gather state) (readParts (depth + 1) unread) =
      readPart depth state (skipBlank unread) >>= fun part =>
        readSeparator close fault part.2 >>= fun found =>
          if found.1 then mapPart (gather part.1) (readParts depth found.2)
          else .ok (part.1, found.2)

/-- A part and its separator are at least one character, so a loop over parts ends. -/
theorem agrees_parts_step {reading : Reading (σ × List Char)}
    (continued : σ → List Char → Reading (σ × List Char)) (enough : unread.length < fuel)
    (notClosed : (skipBlank unread).head? ≠ some close)
    (ofPart : Agrees content (part state) (skipBlank unread) reading)
    (again : ∀ next after, after.length < unread.length →
      Agrees content (repeated (partPass content fuel close fault part) passes next) after
        (continued next after)) :
    Agrees content (repeated (partPass content fuel close fault part) (passes + 1) state) unread
      (reading >>= fun part => readSeparator close fault part.2 >>= fun found =>
        if found.1 then continued part.1 found.2 else .ok (part.1, found.2)) := by
  have once : Agrees content (partPass content fuel close fault part state) unread _ :=
    agrees_partPass enough notClosed ofPart
  cases reading with
  | error failure => exact once.repeated_error
  | ok read =>
      rcases read with ⟨next, afterPart⟩
      cases separated : readSeparator close fault afterPart with
      | error failure =>
          simp only [ok_bind, separated, error_bind] at once ⊢
          exact once.repeated_error
      | ok found =>
          rcases found with ⟨another, after⟩
          simp only [ok_bind, separated] at once ⊢
          cases another with
          | false => exact once.repeated_leave
          | true =>
              have suffix : afterPart <:+ unread :=
                ofPart.suffix.trans (List.dropWhile_suffix isBlank)
              have shorter : after.length < unread.length := by
                rcases readSeparator_eq_ok separated with ⟨gap, _, rfl⟩
                have counted := suffix.length_le
                rw [List.length_append, List.length_cons] at counted
                omega
              exact once.repeated_again shorter (again next after shorter)

theorem agrees_parts {readPart : Nat → σ → List Char → Reading (σ × List Char)}
    {readParts : Nat → List Char → Reading (τ × List Char)} {gather : σ → τ → σ} {depth : Nat}
    (gathers : Gathers close fault readPart readParts gather)
    (ofPart : ∀ depth state unread, unread.length < bound → 2 * unread.length < depth →
      Agrees content (part state) unread (readPart depth state unread))
    (enough : unread.length < fuel) (below : unread.length < bound)
    (enoughPasses : unread.length < passes) (deep : 2 * unread.length + 1 < depth) (state : σ) :
    Agrees content (repeated (partPass content fuel close fault part) passes state) unread
      (mapPart (gather state) (readParts depth unread)) := by
  -- Every pass takes away a unit of depth and at least one character.
  induction passes generalizing unread depth state with
  | zero => cases enoughPasses
  | succ passes induction =>
      rcases Nat.exists_eq_add_one_of_ne_zero (Nat.ne_zero_of_lt deep) with ⟨depth, rfl⟩
      by_cases closed : (skipBlank unread).head? = some close
      · rcases List.head?_eq_some_iff.mp closed with ⟨rest, stopped⟩
        rw [gathers.stops depth state stopped]
        exact performs_parts_close enough stopped
      · rw [gathers.goesOn depth state closed]
        have skipped : (skipBlank unread).length ≤ unread.length :=
          (List.dropWhile_suffix isBlank).length_le
        refine agrees_parts_step (fun next after => mapPart (gather next) (readParts depth after))
          enough closed (ofPart depth state _ (by omega) (by omega)) ?_
        intro next after shorter
        exact induction (by omega) (by omega) (by omega) (by omega) next

end Parts

/-! ## Items and members -/

/-- Texts shorter than the bound are scanned as the reader reads them. -/
def ReadsBelow (content : List Char) (value : Scan Value) (bound : Nat) : Prop :=
  ∀ unread depth, unread.length < bound → 2 * unread.length < depth →
    Agrees content value unread (readValue depth unread)

section Values

variable {value : Scan Value} {bound : Nat}

def item (value : Scan Value) (items : List Value) : Scan (List Value) :=
  return items ++ [← value]

def items (content : List Char) (fuel : Nat) (value : Scan Value) : Scan (List Value) :=
  repeated (partPass content fuel ']' .expectedAfterItem (item value)) fuel []

def readItem (depth : Nat) (items : List Value) (input : List Char) :
    Reading (List Value × List Char) :=
  readValue depth input >>= fun part => .ok (items ++ [part.1], part.2)

theorem gathers_readItems :
    Gathers ']' .expectedAfterItem readItem readItems (fun items more => items ++ more) where
  stops := by
    intro depth items unread rest closed
    rw [readItems_close closed]
    simp [mapPart, Except.map]
  goesOn := by
    intro depth items unread notClosed
    rw [readItems]
    split
    · next rest closed => exact absurd (congrArg List.head? closed) notClosed
    unfold readItem
    cases readValue depth (skipBlank unread) with
    | error failure => rfl
    | ok part =>
        simp only [ok_bind]
        cases readSeparator ']' .expectedAfterItem part.2 with
        | error failure => rfl
        | ok found =>
            rcases found with ⟨another, after⟩
            cases another with
            | false => rfl
            | true =>
                cases following : readItems depth after with
                | error failure => simp [following, mapPart, Except.map]
                | ok others => simp [following, mapPart, Except.map, pure, Except.pure]

theorem agrees_item (reads : ReadsBelow content value bound) {depth : Nat}
    (below : unread.length < bound) (deep : 2 * unread.length < depth) (items : List Value) :
    Agrees content (item value items) unread (readItem depth items unread) :=
  (reads unread depth below deep).bind fun one after _ _ =>
    performs_pure (items ++ [one]) after

def member (content : List Char) (fuel : Nat) (value : Scan Value) (record : Record Value) :
    Scan (Record Value) := do
  let name ← key content fuel
  expect content fuel ':'
  return Record.insert record (String.ofList name) (← value)

def members (content : List Char) (fuel : Nat) (value : Scan Value) : Scan (Record Value) :=
  repeated (partPass content fuel '}' .expectedAfterMember (member content fuel value)) fuel []

def readMember (depth : Nat) (record : Record Value) (input : List Char) :
    Reading (Record Value × List Char) :=
  readKey input >>= fun name =>
    (Value.expect ':' name.2).map (fun rest => ((), rest)) >>= fun colon =>
      readValue depth colon.2 >>= fun part =>
        .ok (Record.insert record (String.ofList name.1) part.1, part.2)

def insertAll (record : Record Value) (members : List (String × Value)) : Record Value :=
  members.foldl (fun record pair => Record.insert record pair.1 pair.2) record

theorem gathers_readMembers :
    Gathers '}' .expectedAfterMember readMember readMembers insertAll where
  stops := by
    intro depth record unread rest closed
    rw [readMembers_close closed]
    rfl
  goesOn := by
    intro depth record unread notClosed
    rw [readMembers]
    split
    · next rest closed => exact absurd (congrArg List.head? closed) notClosed
    unfold readMember
    cases readKey (skipBlank unread) with
    | error failure => rfl
    | ok name =>
        simp only [ok_bind]
        cases Value.expect ':' name.2 with
        | error failure => rfl
        | ok afterColon =>
            simp only [ok_bind, Except.map]
            cases readValue depth afterColon with
            | error failure => rfl
            | ok part =>
                simp only [ok_bind]
                cases readSeparator '}' .expectedAfterMember part.2 with
                | error failure => rfl
                | ok found =>
                    rcases found with ⟨another, after⟩
                    cases another with
                    | false => rfl
                    | true =>
                        cases following : readMembers depth after with
                        | error failure => simp [following, mapPart, Except.map]
                        | ok others =>
                            simp [following, mapPart, insertAll, Except.map, pure, Except.pure]

theorem agrees_member (reads : ReadsBelow content value bound) {depth : Nat}
    (enough : unread.length < fuel) (below : unread.length < bound)
    (deep : 2 * unread.length < depth) (record : Record Value) :
    Agrees content (member content fuel value record) unread (readMember depth record unread) := by
  refine (agrees_key enough).bind fun name afterName _ suffixName => ?_
  have shorter := suffixName.length_le
  refine (agrees_expect (by omega) ':').bind fun _ afterColon _ suffixColon => ?_
  have shorterToo := suffixColon.length_le
  refine (reads _ depth (by omega) (by omega)).bind fun one after _ _ => ?_
  exact performs_pure _ after

end Values

/-! ## Values -/

def value (content : List Char) : Nat → Scan Value
  | 0 => demand none
  | fuel + 1 => do
    passWhile content isBlank (fuel + 1)
    match ← peek content with
    | none => throw .endOfInput
    | some first =>
      if first = '{' then
        expect content (fuel + 1) '{'
        return .record (← members content (fuel + 1) (value content fuel))
      else if first = '[' then
        expect content (fuel + 1) '['
        return .list (← items content (fuel + 1) (value content fuel))
      else if first = '"' then return .text (String.ofList (← string content (fuel + 1)))
      else if first = '-' ∨ isDigit first then return .number (← number content (fuel + 1))
      else if first.isAlpha then
        let letters ← word content (fuel + 1)
        match wordValue? letters with
        | some value => return value
        | none => throw (.unexpectedIdentifier letters)
      else throw (.unexpectedCharacter first)

theorem readsBelow_value (content : List Char) (fuel : Nat) :
    ReadsBelow content (value content fuel) fuel := by
  induction fuel with
  | zero => exact fun unread depth enough => absurd enough (Nat.not_lt_zero _)
  | succ fuel induction =>
      intro unread depth enough deep
      rcases Nat.exists_eq_add_one_of_ne_zero (Nat.ne_zero_of_lt deep) with ⟨depth, rfl⟩
      refine (performs_skipBlank enough).bind ?_
      refine (performs_peek _).bind ?_
      have skipped : (skipBlank unread).length ≤ unread.length :=
        (List.dropWhile_suffix isBlank).length_le
      rw [readValue]
      cases front : skipBlank unread with
      | nil => exact performs_throw _ []
      | cons first rest =>
          rw [front] at skipped
          have enoughHere : (first :: rest).length < fuel + 1 := skipped.trans_lt enough
          rw [List.length_cons] at skipped
          have below : rest.length < fuel := by omega
          have enoughInside : rest.length < fuel + 1 := Nat.lt_succ_of_lt below
          have deepInside : 2 * rest.length + 1 < depth := by omega
          simp only [List.head?_cons]
          split_ifs with brace bracket quote numeric letter
          · subst brace
            refine (performs_open (by decide) enoughHere).bind ?_
            have read : Agrees content (members content (fuel + 1) (value content fuel)) rest
                (mapPart (insertAll []) (readMembers depth rest)) := by
              refine agrees_parts gathers_readMembers ?_ enoughInside below enoughInside
                deepInside []
              intro depth record unread below deep
              exact agrees_member induction (Nat.lt_succ_of_lt below) below deep record
            exact read.bind_of_mapPart fun pairs after => performs_pure _ after
          · subst bracket
            refine (performs_open (by decide) enoughHere).bind ?_
            have read : Agrees content (items content (fuel + 1) (value content fuel)) rest
                (mapPart ([] ++ ·) (readItems depth rest)) := by
              refine agrees_parts gathers_readItems ?_ enoughInside below enoughInside deepInside []
              intro depth items unread below deep
              exact agrees_item induction below deep items
            exact read.bind_of_mapPart fun values after => performs_pure _ after
          · subst quote
            exact (agrees_string enoughHere).bind fun characters after _ _ => performs_pure _ after
          · exact (agrees_number enoughHere).bind fun number after _ _ => performs_pure _ after
          · refine (performs_word enoughHere).bind ?_
            simp only [readWord]
            cases wordValue? ((first :: rest).takeWhile isIdentifierPart) with
            | none => exact performs_throw _ _
            | some value => exact performs_pure value _
          · exact performs_throw _ (first :: rest)

def whole (content : List Char) (fuel : Nat) : Scan Value := do
  let value ← value content fuel
  passWhile content isBlank fuel
  if (← position) < utf8Length content then throw .trailingInput
  return value

theorem agrees_whole (enough : content.length < fuel) :
    Agrees content (whole content fuel) content
      ((readChars content).map fun value => (value, [])) := by
  have read := readsBelow_value content fuel content (2 * content.length + 1) enough
    (Nat.lt_succ_self _)
  rw [readChars]
  cases found : readValue (2 * content.length + 1) content with
  | error failure =>
      rw [found] at read
      exact read.bind_error
  | ok part =>
      rcases part with ⟨value, after⟩
      rw [found] at read
      refine Performs.bind read ?_
      have skipped : Performs content (passWhile content isBlank fuel) after (.ok ())
          (skipBlank after) := performs_skipBlank (read.suffix.length_le.trans_lt enough)
      refine skipped.bind ?_
      simp only [ok_bind]
      cases skipBlank after with
      | nil =>
          refine performs_position (List.suffix_refl []) fun before split => ?_
          have whole : ¬utf8Length before < utf8Length content := by
            rw [split, List.append_nil]
            exact Nat.lt_irrefl _
          rw [if_neg whole]
          exact performs_pure value []
      | cons first rest =>
          refine performs_position (List.suffix_refl (first :: rest)) fun before split => ?_
          have trailing : utf8Length before < utf8Length content := by
            have positive := first.utf8Size_pos
            rw [split, utf8Length_append, utf8Length_cons]
            omega
          rw [if_pos trailing]
          exact (performs_throw _ _).bind_error

end Cursor

/-! ## Boundaries -/

def IsBoundaryOf (text : String) (position : Nat) : Prop :=
  position ≤ text.utf8ByteSize ∧ String.Pos.Raw.IsValid text ⟨position⟩

theorem isBoundaryOf_of_isBoundary {text : String} {position : Nat}
    (boundary : Cursor.IsBoundary text.toList position) : IsBoundaryOf text position := by
  rcases boundary with ⟨before, after, split, size⟩
  have joined : text = String.ofList before ++ String.ofList after := by
    rw [← String.ofList_append, ← split, String.ofList_toList]
  have reached : (⟨position⟩ : String.Pos.Raw) = (String.ofList before).rawEndPos := by
    rw [← size, ← utf8ByteSize_ofList]
    rfl
  have valid : String.Pos.Raw.IsValid text ⟨position⟩ :=
    String.Pos.Raw.isValid_iff_exists_append.mpr ⟨_, _, joined, reached⟩
  exact ⟨valid.le_rawEndPos, valid⟩

/-- An error is found where the run has ended. -/
theorem read_eq_mapError {text : String} {trail : Cursor.Trail}
    (ends : Cursor.StandsAt text.toList trail
      (Cursor.leftBy ((readChars text.toList).map fun value => (value, [])))) :
    read text =
      (Cursor.outcomeOf ((readChars text.toList).map fun value => (value, []))).mapError
        fun fault => { offset := trail.position, fault } := by
  unfold read
  cases found : readChars text.toList with
  | ok value => rfl
  | error failure =>
      rw [found] at ends
      rcases ends.split with ⟨before, split, size⟩
      have offset : utf8Length text.toList - utf8Length failure.unread = trail.position := by
        rw [split, utf8Length_append, size]
        exact Nat.add_sub_cancel _ _
      simp only [offset]
      rfl

/-- A text is read to an end. On the way the reader stands between two characters of the text, does
not go back, and moves on in each pass of a loop or leaves the loop. An error is where the reader
has stopped. -/
theorem read_keeps_to_boundaries (text : String) (fuel : Nat) (enough : text.length < fuel) :
    ∃ outcome trail, (Cursor.whole text.toList fuel).runFrom .start = some (outcome, trail) ∧
      trail.KeepsTo (IsBoundaryOf text) ∧
      read text = outcome.mapError (fun fault => { offset := trail.position, fault }) ∧
      ∀ error, read text = .error error → IsBoundaryOf text error.offset := by
  have agrees := Cursor.agrees_whole (String.length_toList.trans_lt enough)
  rcases agrees.runs .start (.start _) with ⟨trail, ran, ends⟩
  have keeps : trail.KeepsTo (IsBoundaryOf text) :=
    ends.keeps.mono fun position => isBoundaryOf_of_isBoundary
  have same := read_eq_mapError ends
  refine ⟨_, trail, ran, keeps, same, fun error failed => ?_⟩
  have offset : error.offset = trail.position := by
    rw [same] at failed
    rcases mapError_eq_error_iff.mp failed with ⟨fault, _, rfl⟩
    rfl
  rw [offset]
  exact isBoundaryOf_of_isBoundary ends.isBoundary

def strayMinus : String := "[\"é\", \"\\u00e9\", 1-]"

theorem read_keeps_to_boundaries_strayMinus :
    strayMinus.length < 20 ∧
      ∃ trail, (Cursor.whole strayMinus.toList 20).runFrom .start =
          some (.error .expectedAfterItem, trail) ∧
        trail.KeepsTo (IsBoundaryOf strayMinus) ∧ trail.position = 19 := by
  have enough : strayMinus.length < 20 := by decide
  refine ⟨enough, ?_⟩
  rcases read_keeps_to_boundaries strayMinus 20 enough with ⟨outcome, trail, ran, keeps, same, _⟩
  have failed : read strayMinus = .error { offset := 19, fault := .expectedAfterItem } := by cbv
  rcases mapError_eq_error_iff.mp (same.symm.trans failed) with ⟨fault, rfl, found⟩
  injection found with offset sameFault
  exact ⟨trail, sameFault ▸ ran, keeps, offset⟩

end Value

end EntitySchema
