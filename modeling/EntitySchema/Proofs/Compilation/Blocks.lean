import Mathlib
import EntitySchema.Proofs.Compilation.Lines
import EntitySchema.Proofs.Value.Layout
/-!
The blocks of a document.

A document is a sequence of blocks with blank lines between them: the import, if there is one, and
one declaration for each entity. Nothing inside a block is a blank line, however the declaration is
laid out, so the blocks can be found again by splitting the text at its blank lines.
-/

namespace EntitySchema

/-! ## Splitting at blank lines -/

def splitBlocks : List Char → List (List Char)
  | [] => [[]]
  | '\n' :: '\n' :: rest => [] :: splitBlocks rest
  | first :: rest => (splitBlocks rest).modifyHead (first :: ·)

def blocks (text : String) : List String := (splitBlocks text.toList).map String.ofList

example : blocks "a\n\nb\nc\n\n\nd" = ["a", "b\nc", "\nd"] := by decide +kernel

def NotBlankLine (first second : Char) : Prop := ¬(first = '\n' ∧ second = '\n')

/-- A text without a blank line, and without a line break at either end. -/
structure IsBlock (text : List Char) : Prop where
  noBlankLine : ¬['\n', '\n'] <:+: text
  head : text.head? ≠ some '\n'
  last : text.getLast? ≠ some '\n'

theorem isChain_notBlankLine_iff {text : List Char} :
    text.IsChain NotBlankLine ↔ ¬['\n', '\n'] <:+: text := by
  rw [List.isChain_iff_forall_rel_of_append_cons_cons]
  constructor
  · rintro each ⟨before, after, rfl⟩
    exact each (List.append_assoc before _ after) ⟨rfl, rfl⟩
  · rintro noBlankLine first second before after rfl ⟨rfl, rfl⟩
    exact noBlankLine ⟨before, after, by simp⟩

theorem IsBlock.isChain {text : List Char} (isBlock : IsBlock text) :
    text.IsChain NotBlankLine :=
  isChain_notBlankLine_iff.mpr isBlock.noBlankLine

theorem splitBlocks_cons {first : Char} {rest : List Char}
    (inside : ∀ second ∈ rest.head?, NotBlankLine first second) :
    splitBlocks (first :: rest) = (splitBlocks rest).modifyHead (first :: ·) := by
  rw [splitBlocks]
  rintro tail rfl rfl
  exact inside '\n' rfl ⟨rfl, rfl⟩

theorem splitBlocks_of_isChain {text : List Char} (isChain : text.IsChain NotBlankLine) :
    splitBlocks text = [text] := by
  induction text with
  | nil => rfl
  | cons first rest induction =>
      rcases List.isChain_cons.mp isChain with ⟨inside, ofRest⟩
      rw [splitBlocks_cons inside, induction ofRest]
      rfl

/-- The first blank line behind a text without blank lines ends it. -/
theorem splitBlocks_append {text : List Char} (isChain : text.IsChain NotBlankLine)
    (last : text.getLast? ≠ some '\n') (rest : List Char) :
    splitBlocks (text ++ '\n' :: '\n' :: rest) = text :: splitBlocks rest := by
  induction text with
  | nil => rfl
  | cons first others induction =>
      rcases List.isChain_cons.mp isChain with ⟨inside, ofRest⟩
      cases others with
      | nil =>
          -- A line break here would make a blank line with the first half of the separator.
          have different : first ≠ '\n' := by
            simpa using last
          rw [List.singleton_append, splitBlocks_cons (by simp [NotBlankLine, different])]
          rfl
      | cons second others =>
          have stillInside : ∀ next ∈ (second :: others ++ '\n' :: '\n' :: rest).head?,
              NotBlankLine first next := inside
          rw [List.cons_append, splitBlocks_cons stillInside,
            induction ofRest (by simpa using last)]
          rfl

theorem splitBlocks_intercalate {texts : List (List Char)} (nonempty : texts ≠ [])
    (each : ∀ text ∈ texts, IsBlock text) :
    splitBlocks (List.intercalate ['\n', '\n'] texts) = texts := by
  induction texts with
  | nil => exact absurd rfl nonempty
  | cons text rest induction =>
      rcases List.forall_mem_cons.mp each with ⟨ofText, ofRest⟩
      cases rest with
      | nil => simpa using splitBlocks_of_isChain ofText.isChain
      | cons next rest =>
          have split := splitBlocks_append ofText.isChain ofText.last
            (List.intercalate ['\n', '\n'] (next :: rest))
          rw [induction (List.cons_ne_nil _ _) ofRest] at split
          simpa [List.intercalate_cons_cons] using split

/-! ## Texts that are blocks -/

theorem isBlock_of_newline_notMem {text : List Char} (oneLine : '\n' ∉ text) : IsBlock text where
  noBlankLine isInfix := oneLine (isInfix.subset List.mem_cons_self)
  head isHead := oneLine (List.mem_of_mem_head? isHead)
  last isLast := oneLine (List.mem_of_getLast? isLast)

theorem IsBlock.append {left right : List Char} (ofLeft : IsBlock left) (ofRight : IsBlock right) :
    IsBlock (left ++ right) where
  noBlankLine := by
    rw [← isChain_notBlankLine_iff, List.isChain_append]
    refine ⟨ofLeft.isChain, ofRight.isChain, ?_⟩
    rintro last isLast first _ ⟨rfl, _⟩
    exact ofLeft.last isLast
  head := by
    rw [List.head?_append, Ne, Option.or_eq_some_iff]
    rintro (inLeft | ⟨_, inRight⟩)
    · exact ofLeft.head inLeft
    · exact ofRight.head inRight
  last := by
    rw [List.getLast?_append, Ne, Option.or_eq_some_iff]
    rintro (inRight | ⟨_, inLeft⟩)
    · exact ofRight.last inRight
    · exact ofLeft.last inLeft

/-- A line break may stand between two texts that are not empty. -/
theorem IsBlock.append_newline {left right : List Char} (ofLeft : IsBlock left)
    (ofRight : IsBlock right) (leftNonempty : left ≠ []) (rightNonempty : right ≠ []) :
    IsBlock (left ++ '\n' :: right) where
  noBlankLine := by
    rw [← isChain_notBlankLine_iff, List.isChain_append, List.isChain_cons]
    refine ⟨ofLeft.isChain, ⟨?_, ofRight.isChain⟩, ?_⟩
    · rintro first isFirst ⟨_, rfl⟩
      exact ofRight.head isFirst
    · rintro last isLast first _ ⟨rfl, _⟩
      exact ofLeft.last isLast
  head := by
    rw [List.head?_append_of_ne_nil _ leftNonempty]
    exact ofLeft.head
  last := by
    cases right with
    | nil => exact absurd rfl rightNonempty
    | cons first rest =>
        rw [List.getLast?_append_cons, List.getLast?_cons_cons]
        exact ofRight.last

theorem isBlock_intercalate {separator : List Char} {texts : List (List Char)}
    (between : IsBlock separator) (each : ∀ text ∈ texts, IsBlock text) :
    IsBlock (List.intercalate separator texts) := by
  induction texts with
  | nil => exact isBlock_of_newline_notMem (by simp)
  | cons text rest induction =>
      rcases List.forall_mem_cons.mp each with ⟨ofText, ofRest⟩
      cases rest with
      | nil => simpa using ofText
      | cons next rest =>
          rw [List.intercalate_cons_cons]
          exact (ofText.append between).append (induction ofRest)

/-- Texts that are not empty, each on lines of its own. -/
theorem isBlock_intercalate_newline {texts : List (List Char)} (nonempty : texts ≠ [])
    (each : ∀ text ∈ texts, text ≠ [] ∧ IsBlock text) :
    List.intercalate [',', '\n'] texts ≠ [] ∧ IsBlock (List.intercalate [',', '\n'] texts) := by
  induction texts with
  | nil => exact absurd rfl nonempty
  | cons text rest induction =>
      rcases List.forall_mem_cons.mp each with ⟨ofText, ofRest⟩
      cases rest with
      | nil => simpa using ofText
      | cons next rest =>
          have comma : IsBlock [','] := isBlock_of_newline_notMem (by simp)
          rcases induction (List.cons_ne_nil _ _) ofRest with ⟨restNonempty, restIsBlock⟩
          have joined := (ofText.2.append comma).append_newline restIsBlock (by simp) restNonempty
          rw [List.intercalate_cons_cons]
          exact ⟨by simp, by simpa using joined⟩

/-! ## Layouts -/

namespace Value

theorem newline_notMem_spaces (count : Nat) : '\n' ∉ spaces count := by
  intro member
  cases List.eq_of_mem_replicate member

/-- Gaps without line breaks keep blocks together. -/
theorem Gaps.isBlock_fill {gaps : Gaps} {texts : List (List Char)} {first last : Char}
    (inline : '\n' ∉ first :: last :: gaps.front ++ gaps.pad ++ gaps.between ++ gaps.back)
    (each : ∀ text ∈ texts, IsBlock text) :
    IsBlock (first :: (gaps.fill texts ++ [last])) := by
  simp only [List.cons_append, List.mem_cons, List.mem_append, not_or] at inline
  rcases inline with ⟨starts, ends, ⟨⟨front, pad⟩, between⟩, back⟩
  have opening : IsBlock (first :: gaps.front) :=
    isBlock_of_newline_notMem (by simp [starts, front])
  have closing : IsBlock (gaps.back ++ [last]) := isBlock_of_newline_notMem (by simp [ends, back])
  have inside : IsBlock (List.intercalate (',' :: gaps.between)
      (texts.map fun text => gaps.pad ++ text)) := by
    apply isBlock_intercalate
    · exact isBlock_of_newline_notMem (by simp [between])
    · exact List.forall_mem_map.mpr fun text member =>
        (isBlock_of_newline_notMem pad).append (each text member)
  simpa [fill] using (opening.append inside).append closing

/-- Lines of their own keep blocks together, as long as the lines are indented. -/
theorem Gaps.isBlock_fill_lines {indent : Nat} {texts : List (List Char)} {first last : Char}
    (indented : 0 < indent) (depth : Nat) (starts : first ≠ '\n') (ends : last ≠ '\n')
    (nonempty : texts ≠ []) (each : ∀ text ∈ texts, IsBlock text) :
    IsBlock (first :: ((Gaps.lines indent depth).fill texts ++ [last])) := by
  have opening : IsBlock [first] := isBlock_of_newline_notMem (by simp [Ne.symm starts])
  have closing : IsBlock (spaces (indent * depth) ++ [last]) :=
    isBlock_of_newline_notMem (by simp [Ne.symm ends, newline_notMem_spaces])
  -- Without the indentation, a part with an empty text would leave a blank line.
  have pad : spaces (indent * (depth + 1)) ≠ [] := by
    simp [spaces]
    omega
  have padded : ∀ text ∈ texts.map fun text => spaces (indent * (depth + 1)) ++ text,
      text ≠ [] ∧ IsBlock text :=
    List.forall_mem_map.mpr fun text member => ⟨by simp [pad],
      (isBlock_of_newline_notMem (newline_notMem_spaces _)).append (each text member)⟩
  have inside := isBlock_intercalate_newline (by simpa using nonempty) padded
  have joined := (opening.append_newline inside.2 (by simp) inside.1).append_newline closing
    (by simp) (by simp)
  simpa [fill, lines] using joined

def Style.IsIndented : Style → Prop
  | .flat => True
  | .indented indent _ => 0 < indent

theorem isBlock_leafChars {value : Value} (oneLine : ∀ code ∈ value.sources, '\n' ∉ code.toList) :
    IsBlock (leafChars value) := by
  apply isBlock_of_newline_notMem
  cases value with
  | undefined => exact (by decide : '\n' ∉ "undefined".toList)
  | null => exact (by decide : '\n' ∉ "null".toList)
  | bool content =>
      cases content with
      | false => exact (by decide : '\n' ∉ "false".toList)
      | true => exact (by decide : '\n' ∉ "true".toList)
  | number content => exact newline_notMem_numberChars content
  | text content => exact newline_notMem_quotedChars content.toList
  | source code => exact oneLine code (mem_sources.mpr List.mem_cons_self)
  | list items => exact List.not_mem_nil
  | record fields => exact List.not_mem_nil

theorem Style.isBlock_chars_list {style : Style} (isIndented : style.IsIndented)
    {items : List Value}
    (each : ∀ item ∈ items, ∀ style : Style, style.IsIndented → IsBlock (style.chars item)) :
    IsBlock (style.chars (.list items)) := by
  have ofItems (other : Style) (isIndented : other.IsIndented) :
      ∀ text ∈ items.map other.chars, IsBlock text :=
    List.forall_mem_map.mpr fun item member => each item member other isIndented
  rw [chars_list]
  cases style with
  | flat => exact Gaps.isBlock_fill (by simp [Style.ofItems, Gaps.flatList]) (ofItems .flat trivial)
  | indented indent depth =>
      by_cases composite : items.any isComposite
      · have nonempty : items ≠ [] := by
          rintro rfl
          cases composite
        simp only [Style.ofItems, if_pos composite]
        exact Gaps.isBlock_fill_lines isIndented depth (by decide) (by decide)
          (by simpa using nonempty) (ofItems (.indented indent (depth + 1)) isIndented)
      · simp only [Style.ofItems, if_neg composite]
        exact Gaps.isBlock_fill (by simp [Gaps.flatList]) (ofItems .flat trivial)

theorem Style.isBlock_chars_record {style : Style} (isIndented : style.IsIndented)
    {members : List (String × Value)}
    (each : ∀ member ∈ members, ∀ style : Style, style.IsIndented →
      IsBlock (style.chars member.2)) :
    IsBlock (style.chars (.record members)) := by
  have ofMembers (other : Style) (isIndented : other.IsIndented) :
      ∀ text ∈ members.map other.memberChars, IsBlock text := by
    refine List.forall_mem_map.mpr fun member listed => ?_
    have key : IsBlock (keyChars member.1 ++ [':', ' ']) := isBlock_of_newline_notMem (by simp)
    simpa [memberChars_eq] using key.append (each member listed other isIndented)
  rw [chars_record]
  cases members with
  | nil =>
      cases style <;> exact Gaps.isBlock_fill (by simp [Style.ofMembers]) (List.forall_mem_nil _)
  | cons member rest =>
      cases style with
      | flat =>
          exact Gaps.isBlock_fill (by simp [Style.ofMembers, Gaps.flatRecord])
            (ofMembers .flat trivial)
      | indented indent depth =>
          exact Gaps.isBlock_fill_lines isIndented depth (by decide) (by decide) (by simp)
            (ofMembers (.indented indent (depth + 1)) isIndented)

/-- However a value is laid out, its text has no blank line, as long as its code has no line
break. -/
theorem Style.isBlock_chars {value : Value} (oneLine : ∀ code ∈ value.sources, '\n' ∉ code.toList)
    {style : Style} (isIndented : style.IsIndented) : IsBlock (style.chars value) := by
  induction value using Value.induction generalizing style with
  | list items induction =>
      rw [sources_list] at oneLine
      apply isBlock_chars_list isIndented
      intro item member other isIndented
      refine induction item member (fun code inItem => oneLine code ?_) isIndented
      exact List.mem_flatMap.mpr ⟨item, member, inItem⟩
  | record members induction =>
      rw [sources_record] at oneLine
      apply isBlock_chars_record isIndented
      intro member listed other isIndented
      refine induction member listed (fun code inMember => oneLine code ?_) isIndented
      exact List.mem_flatMap.mpr ⟨member, listed, inMember⟩
  | leaf value leaf =>
      rw [chars_leaf leaf]
      exact isBlock_leafChars oneLine

theorem isBlock_layout {value : Value} (oneLine : ∀ code ∈ value.sources, '\n' ∉ code.toList)
    (indent : Nat) : IsBlock (layout indent value) := by
  rw [Style.layout_eq_chars]
  apply Style.isBlock_chars oneLine
  unfold Style.ofIndent
  split_ifs with zero
  · trivial
  · exact Nat.pos_of_ne_zero zero

end Value

/-! ## Documents -/

variable {graph : Graph} {config : Config} {metadata : Metadata} {artifact : Artifact}

theorem isBlock_statement {entity : EntityMetadata} {schema : Schema} {statement : String}
    (valid : config.fault? = none) (now : '\n' ∉ config.timestamps.nowSource.toList)
    (assembled : Schema.ofEntity graph config entity = .ok schema)
    (declared : schema.statement config = .ok statement) : IsBlock statement.toList := by
  have literal : IsBlock (Value.layout config.output.indent (schema.toValue config)) := by
    apply Value.isBlock_layout
    intro code member
    have generated : IsGeneratedCode graph config code :=
      Schema.isDrawn_of_ofEntity assembled _ (Value.mem_sources.mp member)
    exact generated.newline_notMem valid now
  have named := newline_notMem_of_isIdentifier
    (isIdentifier_of_nameFault? (name_of_ofEntity assembled).2)
  have front : IsBlock ((if config.output.exported then "export " else "") ++ "const " ++
      schema.name ++ " = ").toList := by
    apply isBlock_of_newline_notMem
    split_ifs <;> simp [named]
  have back : IsBlock [';'] := isBlock_of_newline_notMem (by simp)
  unfold Schema.statement Value.write at declared
  split at declared
  · cases declared
  · next text written =>
      split at written
      · cases written
      · cases written
        cases declared
        simpa using (front.append literal).append back

theorem isBlock_importLine (valid : config.fault? = none) : IsBlock (importLine config).toList :=
  isBlock_of_newline_notMem (newline_notMem_importLine valid)

theorem blocks_intercalate {texts : List String} (nonempty : texts ≠ [])
    (each : ∀ text ∈ texts, IsBlock text.toList) :
    blocks (String.intercalate "\n\n" texts) = texts := by
  have split := splitBlocks_intercalate (by simpa using nonempty : texts.map String.toList ≠ [])
    (List.forall_mem_map.mpr each)
  have separator : "\n\n".toList = ['\n', '\n'] := by
    decide
  rw [blocks, String.toList_intercalate, separator, split]
  simp

/-- The blocks of a document, between its blank lines, are the import of the custom type if it is
used, and then the declaration of each entity in its turn. -/
theorem blocks_of_compile (valid : config.fault? = none)
    (now : '\n' ∉ config.timestamps.nowSource.toList) (annotated : metadata.entities ≠ [])
    (compiled : compile graph metadata config = .ok artifact) :
    ∃ text statements, artifact.source = text ++ "\n" ∧
      blocks text = (if artifact.usesCustomType then [importLine config] else []) ++ statements ∧
      List.Forall₂ (fun entity statement => ∃ schema,
        Schema.ofEntity graph config entity = .ok schema ∧
          schema.statement config = .ok statement) metadata.entities statements ∧
      ∀ block ∈ blocks text, IsBlock block.toList := by
  rcases exists_isJoinOf compiled with ⟨parts, entities, joined⟩
  have declared := fun part member => Part.isCompiled_iff.mp (joined.compiled part member)
  have each : ∀ block ∈ (if artifact.usesCustomType then [importLine config] else []) ++
      parts.map Part.statement, IsBlock block.toList := by
    intro block member
    rcases List.mem_append.mp member with imported | isStatement
    · split_ifs at imported
      · rw [List.mem_singleton.mp imported]
        exact isBlock_importLine valid
      · cases imported
    · rcases List.mem_map.mp isStatement with ⟨part, inParts, rfl⟩
      exact isBlock_statement valid now (declared part inParts).1 (declared part inParts).2
  have nonempty : (if artifact.usesCustomType then [importLine config] else []) ++
      parts.map Part.statement ≠ [] := by
    intro empty
    rw [List.map_eq_nil_iff.mp (List.append_eq_nil_iff.mp empty).2] at entities
    exact annotated entities.symm
  have split := blocks_intercalate nonempty each
  refine ⟨_, _, joined.source, split, ?_, ?_⟩
  · rw [← entities, List.forall₂_map_left_iff, List.forall₂_map_right_iff, List.forall₂_same]
    exact fun part member => ⟨part.schema, declared part member⟩
  · rw [split]
    exact each

/-- A poem with blank lines in the name of a property and in the value of an enum. -/
def poemGraph : Graph :=
  { types := #[
      .scalar { name := "string" },
      .null,
      .enum { name := "Mood", members := [{ name := "calm", value := some (.text "c\n\nm") }] },
      .union { variants := [⟨0⟩, ⟨1⟩, ⟨2⟩] },
      .record
        { name := "Poem"
          properties := [{ name := "line\n\n", type := ⟨3⟩ }, { name := "mood", type := ⟨2⟩ }] }] }

def poemEntity : EntityMetadata := { node := ⟨4⟩, entity := "Poem", service := some "\n" }

def draftEntity : EntityMetadata := { node := ⟨4⟩, entity := "Draft" }

theorem blocks_poemGraph :
    ∃ artifact text statements,
      compile poemGraph { entities := [poemEntity, draftEntity] } {} = .ok artifact ∧
        artifact.source = text ++ "\n" ∧ blocks text = importLine {} :: statements ∧
        statements.length = 2 := by
  obtain ⟨artifact, compiled⟩ : ∃ artifact,
      compile poemGraph { entities := [poemEntity, draftEntity] } {} = .ok artifact := ⟨_, rfl⟩
  have uses : artifact.usesCustomType = true := by
    cases compiled
    rfl
  rcases blocks_of_compile (by decide) (by decide) (List.cons_ne_nil _ _) compiled with
    ⟨text, statements, source, split, each, _⟩
  rw [if_pos uses] at split
  exact ⟨artifact, text, statements, compiled, source, split, each.length_eq.symm⟩

end EntitySchema
