import Mathlib
import EntitySchema.Proofs.Value.RoundTrip
/-!
Fragments of code are written as they are, in a text that does not depend on them.

The text around the fragments is the text that is written around nulls in their places. It reads
back, so a fragment cannot disturb what stands around it.
-/

namespace EntitySchema

namespace Value

/-! ## Other values in the places of code -/

mutual

def replaceSources (replacement : String → Value) : Value → Value
  | .source code => replacement code
  | .list items => .list (replaceItems replacement items)
  | .record fields => .record (replaceFields replacement fields)
  | leaf => leaf

def replaceItems (replacement : String → Value) : List Value → List Value
  | [] => []
  | item :: rest => replaceSources replacement item :: replaceItems replacement rest

def replaceFields (replacement : String → Value) : List (String × Value) → List (String × Value)
  | [] => []
  | (key, value) :: rest =>
    (key, replaceSources replacement value) :: replaceFields replacement rest

end

def erased (value : Value) : Value := value.replaceSources fun _ => .source ""

def nulled (value : Value) : Value := value.replaceSources fun _ => .null

section Replacement

variable (replacement : String → Value)

@[simp] theorem replaceSources_source (code : String) :
    (source code).replaceSources replacement = replacement code := rfl

@[simp] theorem replaceSources_list (items : List Value) :
    (list items).replaceSources replacement = .list (items.map (replaceSources replacement)) := by
  rw [replaceSources]
  congr 1
  induction items with
  | nil => rfl
  | cons item rest induction => rw [replaceItems, induction, List.map_cons]

@[simp] theorem replaceSources_record (fields : List (String × Value)) :
    (record fields).replaceSources replacement =
      .record (fields.map fun field => (field.1, field.2.replaceSources replacement)) := by
  rw [replaceSources]
  congr 1
  induction fields with
  | nil => rfl
  | cons field rest induction => rw [replaceFields, induction, List.map_cons]

theorem replaceSources_source_self (value : Value) : value.replaceSources source = value := by
  induction value using Value.induction with
  | list items induction =>
      rw [replaceSources_list, List.map_congr_left induction, List.map_id']
  | record fields induction =>
      have same : ∀ field ∈ fields, (field.1, field.2.replaceSources source) = field :=
        fun field member => Prod.ext rfl (induction field member)
      rw [replaceSources_record, List.map_congr_left same, List.map_id']
  | leaf value leaf =>
      cases value with
      | list items => cases leaf
      | record fields => cases leaf
      | _ => rfl

variable (leaves : ∀ code, (replacement code).isComposite = false)

include leaves

theorem isComposite_replaceSources (value : Value) :
    (value.replaceSources replacement).isComposite = value.isComposite := by
  cases value with
  | source code => exact leaves code
  | _ => rfl

theorem nodes_replaceSources (value : Value) :
    (value.replaceSources replacement).nodes = value.nodes.map (replaceSources replacement) := by
  induction value using Value.induction with
  | list items induction =>
      simp only [replaceSources_list, nodes_list, List.map_cons, List.map_flatMap,
        List.flatMap_map]
      rw [List.flatMap_congr induction]
  | record fields induction =>
      simp only [replaceSources_record, nodes_record, List.map_cons, List.map_flatMap,
        List.flatMap_map]
      rw [List.flatMap_congr induction]
  | leaf value leaf =>
      rw [nodes_leaf leaf, nodes_leaf (by rw [isComposite_replaceSources _ leaves, leaf])]
      rfl

end Replacement

/-! ## Pieces of a text -/

def weave : List (List Char) → List (List Char) → List Char
  | piece :: pieces, fragment :: fragments => piece ++ (fragment ++ weave pieces fragments)
  | pieces, _ => pieces.flatten

/-- One text behind another: the last piece of the former goes on with the first of the latter. -/
def glue : List (List Char) → List (List Char) → List (List Char)
  | [], after => after
  | [last], [] => [last]
  | [last], first :: after => (last ++ first) :: after
  | piece :: next :: rest, after => piece :: glue (next :: rest) after

theorem weave_append_cons (before piece : List Char) (rest fragments : List (List Char)) :
    weave ((before ++ piece) :: rest) fragments = before ++ weave (piece :: rest) fragments := by
  cases fragments <;> simp [weave]

structure IsFrame (pieces fragments : List (List Char)) (text : List Char) : Prop where
  length : pieces.length = fragments.length + 1
  text_eq : text = weave pieces fragments

namespace IsFrame

theorem const (text : List Char) : IsFrame [text] [] text where
  length := rfl
  text_eq := by simp [weave]

theorem hole (fragment : List Char) : IsFrame [[], []] [fragment] fragment where
  length := rfl
  text_eq := by simp [weave]

theorem append {pieces fragments : List (List Char)} {text : List Char}
    {morePieces moreFragments : List (List Char)} {moreText : List Char}
    (frame : IsFrame pieces fragments text) (more : IsFrame morePieces moreFragments moreText) :
    IsFrame (glue pieces morePieces) (fragments ++ moreFragments) (text ++ moreText) := by
  rcases frame with ⟨length, rfl⟩
  rcases more with ⟨moreLength, rfl⟩
  induction pieces generalizing fragments with
  | nil => simp at length
  | cons piece rest induction =>
      cases rest with
      | nil =>
          rcases List.length_eq_zero_iff.mp (Nat.succ.inj length).symm with rfl
          cases morePieces with
          | nil => simp at moreLength
          | cons first after =>
              constructor
              · simpa [glue] using moreLength
              · simp [glue, weave_append_cons, weave]
      | cons next rest =>
          cases fragments with
          | nil => simp at length
          | cons fragment fragments =>
              have inRest := induction (Nat.succ.inj length)
              constructor
              · simpa [glue] using inRest.length
              · simpa [glue, weave] using inRest.text_eq

end IsFrame

def joinFrames (separator : List Char) : List (List (List Char)) → List (List Char)
  | [] => [[]]
  | [frame] => frame
  | frame :: next :: rest => glue frame (glue [separator] (joinFrames separator (next :: rest)))

def Gaps.fillFrames (gaps : Gaps) (frames : List (List (List Char))) : List (List Char) :=
  glue [gaps.front]
    (glue (joinFrames (',' :: gaps.between) (frames.map (glue [gaps.pad]))) [gaps.back])

section Parts

variable {α : Type} {pieces fragments : α → List (List Char)} {text : α → List Char}

theorem IsFrame.join (separator : List Char) (parts : List α)
    (each : ∀ part ∈ parts, IsFrame (pieces part) (fragments part) (text part)) :
    IsFrame (joinFrames separator (parts.map pieces)) (parts.flatMap fragments)
      (List.intercalate separator (parts.map text)) := by
  induction parts with
  | nil => exact .const []
  | cons part rest induction =>
      have first := each part List.mem_cons_self
      have inRest := induction fun other member => each other (List.mem_cons_of_mem _ member)
      cases rest with
      | nil => simpa [joinFrames] using first
      | cons next rest =>
          have joined := first.append ((IsFrame.const separator).append inRest)
          simpa [joinFrames, List.intercalate_cons_cons] using joined

theorem IsFrame.fill (gaps : Gaps) (parts : List α)
    (each : ∀ part ∈ parts, IsFrame (pieces part) (fragments part) (text part)) :
    IsFrame (gaps.fillFrames (parts.map pieces)) (parts.flatMap fragments)
      (gaps.fill (parts.map text)) := by
  have padded : ∀ part ∈ parts,
      IsFrame (glue [gaps.pad] (pieces part)) (fragments part) (gaps.pad ++ text part) :=
    fun part member => (IsFrame.const gaps.pad).append (each part member)
  have joined := IsFrame.join (',' :: gaps.between) parts padded
  have filled := (IsFrame.const gaps.front).append (joined.append (IsFrame.const gaps.back))
  simpa [Gaps.fillFrames, Gaps.fill, Function.comp_def] using filled

end Parts

/-! ## The frame of a value -/

@[simp] theorem erased_list (items : List Value) :
    (list items).erased = .list (items.map erased) := by
  rw [erased, replaceSources_list]
  rfl

@[simp] theorem erased_record (fields : List (String × Value)) :
    (record fields).erased = .record (fields.map fun field => (field.1, field.2.erased)) := by
  rw [erased, replaceSources_record]
  rfl

theorem isComposite_erased (value : Value) : value.erased.isComposite = value.isComposite :=
  isComposite_replaceSources _ (fun _ => rfl) value

theorem exists_of_erased_eq_list {value : Value} {shapes : List Value}
    (shape : value.erased = .list shapes) :
    ∃ items, value = .list items ∧ items.map erased = shapes := by
  cases value with
  | list items => exact ⟨items, rfl, by simpa using shape⟩
  | _ => cases shape

theorem exists_of_erased_eq_record {value : Value} {shapes : List (String × Value)}
    (shape : value.erased = .record shapes) :
    ∃ fields, value = .record fields ∧
      (fields.map fun field => (field.1, field.2.erased)) = shapes := by
  cases value with
  | record fields => exact ⟨fields, rfl, by simpa using shape⟩
  | _ => cases shape

/-- The pieces are the text around the code of every value of a shape, whether the code or another
value without parts is written in its places. -/
def Style.Frames (style : Style) (pieces : List (List Char)) (shape : Value) : Prop :=
  ∀ (value : Value) (replacement : String → Value), value.erased = shape →
    (∀ code, (replacement code).isComposite = false) →
      IsFrame pieces (value.sources.map fun code => leafChars (replacement code))
        (style.chars (value.replaceSources replacement))

theorem exists_frames_list (style : Style) (shapes : List Value)
    (each : ∀ shape ∈ shapes, ∀ style : Style, ∃ pieces, style.Frames pieces shape) :
    ∃ pieces, style.Frames pieces (.list shapes) := by
  choose! pieces frames using fun shape member => each shape member (style.ofItems shapes).1
  refine ⟨glue [['[']] (glue ((style.ofItems shapes).2.fillFrames (shapes.map pieces)) [[']']]), ?_⟩
  intro value replacement hasShape leaves
  rcases exists_of_erased_eq_list hasShape with ⟨items, rfl, rfl⟩
  have inItems : ∀ item ∈ items, IsFrame (pieces item.erased)
      (item.sources.map fun code => leafChars (replacement code))
      ((style.ofItems (items.map erased)).1.chars (item.replaceSources replacement)) :=
    fun item member => frames item.erased (List.mem_map_of_mem member) item replacement rfl leaves
  have filled := IsFrame.fill (style.ofItems (items.map erased)).2 items inItems
  have framed := (IsFrame.const ['[']).append (filled.append (IsFrame.const [']']))
  rw [replaceSources_list, Style.chars_list, sources_list]
  rw [style.ofItems_map isComposite_erased] at framed ⊢
  rw [style.ofItems_map (isComposite_replaceSources _ leaves)]
  simpa [List.map_flatMap, Function.comp_def] using framed

theorem exists_frames_record (style : Style) (shapes : List (String × Value))
    (each : ∀ shape ∈ shapes, ∀ style : Style, ∃ pieces, style.Frames pieces shape.2) :
    ∃ pieces, style.Frames pieces (.record shapes) := by
  choose! pieces frames using fun shape member => each shape member (style.ofMembers shapes).1
  refine ⟨glue [['{']] (glue ((style.ofMembers shapes).2.fillFrames
    (shapes.map fun shape => glue [keyChars shape.1 ++ [':', ' ']] (pieces shape))) [['}']]), ?_⟩
  intro value replacement hasShape leaves
  rcases exists_of_erased_eq_record hasShape with ⟨fields, rfl, rfl⟩
  rw [style.ofMembers_map] at frames ⊢
  have inFields : ∀ field ∈ fields,
      IsFrame (glue [keyChars field.1 ++ [':', ' ']] (pieces (field.1, field.2.erased)))
        (field.2.sources.map fun code => leafChars (replacement code))
        ((style.ofMembers fields).1.memberChars (field.1, field.2.replaceSources replacement)) := by
    intro field member
    have inValue := frames (field.1, field.2.erased) (List.mem_map_of_mem member) field.2
      replacement rfl leaves
    have framed := (IsFrame.const (keyChars field.1 ++ [':', ' '])).append inValue
    simpa [Style.memberChars_eq] using framed
  have filled := IsFrame.fill (style.ofMembers fields).2 fields inFields
  have framed := (IsFrame.const ['{']).append (filled.append (IsFrame.const ['}']))
  rw [replaceSources_record, Style.chars_record, sources_record, style.ofMembers_map]
  simpa [List.map_flatMap, Function.comp_def] using framed

theorem exists_frames_leaf (style : Style) {shape : Value} (leaf : shape.isComposite = false) :
    ∃ pieces, style.Frames pieces shape := by
  refine ⟨if shape.source? = none then [leafChars shape] else [[], []], ?_⟩
  intro value replacement hasShape leaves
  subst hasShape
  rw [isComposite_erased] at leaf
  rw [Style.chars_leaf (by rw [isComposite_replaceSources _ leaves, leaf])]
  cases value with
  | list items => cases leaf
  | record fields => cases leaf
  | source code => exact .hole _
  | _ => exact .const _

theorem exists_frames (shape : Value) (style : Style) : ∃ pieces, style.Frames pieces shape := by
  induction shape using Value.induction generalizing style with
  | list shapes induction => exact exists_frames_list style shapes induction
  | record shapes induction => exact exists_frames_record style shapes induction
  | leaf shape leaf => exact exists_frames_leaf style leaf

/-! ## What the frame is made of -/

theorem number_mem_nodes_replaceSources (replacement : String → Value)
    (leaves : ∀ code, (replacement code).isComposite = false)
    (noNumber : ∀ code number, replacement code ≠ .number number) {value : Value}
    {number : Number} :
    .number number ∈ (value.replaceSources replacement).nodes ↔ .number number ∈ value.nodes := by
  rw [nodes_replaceSources _ leaves, List.mem_map]
  constructor
  · rintro ⟨node, member, equal⟩
    cases node with
    | number content =>
        cases equal
        exact member
    | source code => exact absurd equal (noNumber code number)
    | _ => cases equal
  · intro member
    exact ⟨_, member, rfl⟩

theorem HasFiniteNumbers.of_erased_eq {value other : Value} (finite : value.HasFiniteNumbers)
    (sameShape : other.erased = value.erased) : other.HasFiniteNumbers := by
  intro number member
  have inErased : ∀ value : Value, .number number ∈ value.erased.nodes ↔
      .number number ∈ value.nodes := fun value =>
    number_mem_nodes_replaceSources (fun _ => .source "") (fun _ => rfl) (by simp)
  rw [← inErased, sameShape, inErased] at member
  exact finite number member

theorem isSourceFree_nulled (value : Value) : value.nulled.IsSourceFree := by
  intro code member
  rw [nulled, nodes_replaceSources _ (fun _ => rfl)] at member
  rcases List.mem_map.mp member with ⟨node, _, equal⟩
  cases node <;> cases equal

theorem HasFiniteNumbers.nulled {value : Value} (finite : value.HasFiniteNumbers) :
    value.nulled.HasFiniteNumbers := by
  intro number member
  have inValue := (number_mem_nodes_replaceSources (fun _ => .null) (fun _ => rfl) (by simp)).mp
    member
  exact finite number inValue

theorem HasBuiltRecords.nulled {value : Value} (built : value.HasBuiltRecords) :
    value.nulled.HasBuiltRecords := by
  intro fields member
  rw [Value.nulled, nodes_replaceSources _ (fun _ => rfl)] at member
  rcases List.mem_map.mp member with ⟨node, inValue, equal⟩
  cases node with
  | record original =>
      rw [replaceSources_record] at equal
      cases equal
      have distinct := (Record.isBuilt_iff_nodup_keys original).mp (built original inValue)
      rw [Record.isBuilt_iff_nodup_keys]
      simpa [Record.keys, Function.comp_def] using distinct
  | _ => cases equal

/-! ## Writing code -/

def weaveText (pieces : List (List Char)) (fragments : List String) : String :=
  String.ofList (weave pieces (fragments.map String.toList))

/-- A value is written as its code, word for word, between pieces of text that are the same for
every value that differs from it in the code only. With nulls in the places of the code, the pieces
make the text of the value with nulls there, and that text reads back. -/
theorem exists_write_eq_weaveText (indent : Nat) (value : Value)
    (finite : value.HasFiniteNumbers) (built : value.HasBuiltRecords)
    (visible : ∀ code ∈ value.sources, isBlankText code = false) :
    ∃ pieces, pieces.length = value.sources.length + 1 ∧
      write indent value = .ok (weaveText pieces value.sources) ∧
      (∀ other : Value, other.erased = value.erased →
        (∀ code ∈ other.sources, isBlankText code = false) →
          write indent other = .ok (weaveText pieces other.sources)) ∧
      write indent value.nulled = .ok (weaveText pieces (value.sources.map fun _ => "null")) ∧
      ∃ same, read (weaveText pieces (value.sources.map fun _ => "null")) = .ok same ∧
        same.equals value.nulled = true := by
  rcases exists_frames value.erased (Style.ofIndent indent) with ⟨pieces, frames⟩
  have sameShape : ∀ other : Value, other.erased = value.erased →
      (∀ code ∈ other.sources, isBlankText code = false) →
        write indent other = .ok (weaveText pieces other.sources) := by
    intro other shape otherVisible
    have framed := frames other source shape fun _ => rfl
    rw [replaceSources_source_self] at framed
    rw [write_eq_ok (finite.of_erased_eq shape) otherVisible, framed.text_eq]
    rfl
  have framedNulls := frames value (fun _ => .null) rfl fun _ => rfl
  have nulls : weaveText pieces (value.sources.map fun _ => "null") =
      String.ofList ((Style.ofIndent indent).chars value.nulled) := by
    rw [nulled, framedNulls.text_eq, weaveText, List.map_map]
    rfl
  rcases exists_spells_chars value.nulled (isSourceFree_nulled value) finite.nulled built.nulled
      (Style.ofIndent indent) with
      ⟨same, spells, equal⟩
  have nullsWritten := write_eq_ok finite.nulled
    (by simp [(isSourceFree_nulled value).sources_eq_nil]) indent
  refine ⟨pieces, by simpa using framedNulls.length, sameShape value rfl visible, sameShape, ?_,
    same, ?_, equal⟩
  · rw [nulls, nullsWritten]
  · rw [nulls, read_of_spells spells]

def codeSample : Value :=
  .record
    [("validate", .list [.source "(value) => \x7b\n  return \"\x7d\";\n\x7d", .null, .list []]),
      ("set", .source "now()")]

theorem exists_write_codeSample_eq_weaveText :
    ∃ pieces, pieces.length = 3 ∧
      write 2 codeSample = .ok (weaveText pieces codeSample.sources) ∧
      (∀ other : Value, other.erased = codeSample.erased →
        (∀ code ∈ other.sources, isBlankText code = false) →
          write 2 other = .ok (weaveText pieces other.sources)) ∧
      write 2 codeSample.nulled = .ok (weaveText pieces ["null", "null"]) ∧
      ∃ same, read (weaveText pieces ["null", "null"]) = .ok same ∧
        same.equals codeSample.nulled = true := by
  refine exists_write_eq_weaveText 2 codeSample ?_ ?_ ?_
  · simp [HasFiniteNumbers, codeSample, nodes, itemNodes]
  · simp [HasBuiltRecords, codeSample, nodes, itemNodes, Record.isBuilt_iff_nodup_keys]
  · decide

end Value

end EntitySchema
