import Mathlib
import EntitySchema.Proofs.Value.Grammar
import EntitySchema.Proofs.Value.Numbers
/-!
Reading inverts writing.

Whatever its layout, a value that holds no code is written as a spelling of a value equal to it, and
the reader takes every spelling. The value that comes back is equal but need not be the same: a
double without a fraction comes back as a whole number.
-/

namespace EntitySchema

namespace Value

/-! ## Gaps -/

structure Gaps.IsBlank (gaps : Gaps) : Prop where
  front : IsBlankRun gaps.front
  pad : IsBlankRun gaps.pad
  between : IsBlankRun gaps.between
  back : IsBlankRun gaps.back

theorem isBlankRun_spaces (count : Nat) : IsBlankRun (spaces count) := by
  intro character member
  rw [List.eq_of_mem_replicate member]
  rfl

theorem Gaps.isBlank_flatList : flatList.IsBlank := by
  constructor <;> simp [flatList, isBlank]

theorem Gaps.isBlank_flatRecord : flatRecord.IsBlank := by
  constructor <;> simp [flatRecord, isBlank]

theorem Gaps.isBlank_lines (indent depth : Nat) : (lines indent depth).IsBlank := by
  constructor <;> simp [lines, isBlank, isBlankRun_spaces]

theorem Style.isBlank_ofItems (style : Style) (items : List Value) :
    (style.ofItems items).2.IsBlank := by
  cases style with
  | flat => exact Gaps.isBlank_flatList
  | indented indent depth =>
      by_cases composite : items.any isComposite
      · simpa [ofItems, composite] using Gaps.isBlank_lines indent depth
      · simpa [ofItems, composite] using Gaps.isBlank_flatList

theorem Style.isBlank_ofMembers (style : Style) (members : List (String × Value)) :
    (style.ofMembers members).2.IsBlank := by
  cases members with
  | nil => constructor <;> simp [ofMembers]
  | cons member rest =>
      cases style with
      | flat => exact Gaps.isBlank_flatRecord
      | indented indent depth => exact Gaps.isBlank_lines indent depth

theorem separated_intercalate {α β : Type} {SpellsPart : β → List Char → Prop} {gaps : Gaps}
    (blank : gaps.IsBlank) (part : α → β) (text : α → List Char) (parts : List α)
    (each : ∀ one ∈ parts, SpellsPart (part one) (text one)) {front : List Char}
    (blankFront : IsBlankRun front) :
    Separated SpellsPart (parts.map part)
      (front ++
        List.intercalate (',' :: gaps.between) (parts.map fun one => gaps.pad ++ text one) ++
          gaps.back) := by
  induction parts generalizing front with
  | nil => simpa using Separated.none (isBlankRun_append blankFront blank.back)
  | cons one rest induction =>
      have blankBefore := isBlankRun_append blankFront blank.pad
      have spells := each one List.mem_cons_self
      have inRest := induction (fun other member => each other (List.mem_cons_of_mem _ member))
        blank.between
      cases rest with
      | nil => simpa using Separated.last blankBefore spells blank.back
      | cons next rest =>
          simpa [List.intercalate_cons_cons] using
            Separated.more blankBefore spells isBlankRun_nil inRest

theorem Gaps.separated_fill {α β : Type} {SpellsPart : β → List Char → Prop} {gaps : Gaps}
    (blank : gaps.IsBlank) (part : α → β) (text : α → List Char) (parts : List α)
    (each : ∀ one ∈ parts, SpellsPart (part one) (text one)) :
    Separated SpellsPart (parts.map part) (gaps.fill (parts.map text)) := by
  simpa [fill, Function.comp_def] using
    separated_intercalate blank part text parts each blank.front

/-! ## Values without parts -/

theorem exists_start_withSign {magnitude : List Char} (digit : StartsWithDigit magnitude)
    (negative : Bool) :
    ∃ first text, withSign negative magnitude = first :: text ∧
      (first = '-' ∨ isDigit first = true) := by
  cases negative with
  | true => exact ⟨'-', magnitude, rfl, .inl rfl⟩
  | false =>
      rcases digit with ⟨first, text, equal, digit⟩
      exact ⟨first, text, equal, .inr digit⟩

theorem exists_start_chars {number : Number} (finite : number.isFinite = true) :
    ∃ first text, number.chars = first :: text ∧ (first = '-' ∨ isDigit first = true) := by
  cases number with
  | int integer =>
      have digit := startsWithDigit_of_digits (decimalDigits_ne_nil integer.toInt.natAbs)
        (fun digit member => isDigit_of_mem_decimalDigits member) []
      rw [List.append_nil] at digit
      rw [Number.chars, signedDigits_eq_withSign]
      exact exists_start_withSign digit _
  | float double =>
      cases double with
      | finite negative rank =>
          rw [Number.chars, Binary64.chars_finite]
          exact exists_start_withSign (Decimal.startsWithDigit_positional _) negative
      | infinite negative => cases finite
      | nan => cases finite

theorem spells_number {number same : Number} (finite : number.isFinite = true)
    (readsBack : readNumber number.chars = .ok (same, [])) :
    Spells (.number same) number.chars := by
  rcases exists_start_chars finite with ⟨first, text, chars, start⟩
  rw [chars] at readsBack ⊢
  exact .number start readsBack

theorem spellsKey_keyChars (key : String) : SpellsKey key.toList (keyChars key) := by
  by_cases identifier : isIdentifier key = true
  · rw [keyChars, if_pos identifier]
    exact .bare identifier
  · rw [keyChars, if_neg identifier]
    exact .quoted (readString_flatMap_escapeCharacter key.toList [])

theorem spells_leafChars {change : Number → Number} {value : Value}
    (leaf : value.isComposite = false) (sourceFree : value.IsSourceFree)
    (numbers : ∀ content, .number content ∈ value.nodes →
      Spells (.number (change content)) content.chars) :
    Spells (value.mapNumbers change) (leafChars value) := by
  cases value with
  | list items => cases leaf
  | record fields => cases leaf
  | source code => exact absurd List.mem_cons_self (sourceFree code)
  | undefined => exact .word rfl
  | null => exact .word rfl
  | bool content => cases content <;> exact .word rfl
  | text content =>
      have spells := Spells.string (readString_flatMap_escapeCharacter content.toList [])
      rw [String.ofList_toList] at spells
      exact spells
  | number content => exact numbers content List.mem_cons_self

/-! ## Values with parts -/

theorem itemsEqual_map {same : Value → Value} {items : List Value}
    (each : ∀ item ∈ items, (same item).equals item = true) :
    itemsEqual (items.map same) items = true := by
  induction items with
  | nil => rfl
  | cons item rest induction =>
      have inRest := induction fun other member => each other (List.mem_cons_of_mem _ member)
      simp [itemsEqual, each item List.mem_cons_self, inRest]

theorem fieldsEqual_map {same : String × Value → Value} {fields : List (String × Value)}
    (each : ∀ field ∈ fields, (same field).equals field.2 = true) :
    fieldsEqual (fields.map fun field => (field.1, same field)) fields = true := by
  induction fields with
  | nil => rfl
  | cons field rest induction =>
      have inRest := induction fun other member => each other (List.mem_cons_of_mem _ member)
      simp [fieldsEqual, each field List.mem_cons_self, inRest]

theorem IsSourceFree.of_subset {value other : Value} (sourceFree : value.IsSourceFree)
    (subset : other.nodes ⊆ value.nodes) : other.IsSourceFree :=
  fun code member => sourceFree code (subset member)

theorem HasBuiltRecords.of_subset {value other : Value} (built : value.HasBuiltRecords)
    (subset : other.nodes ⊆ value.nodes) : other.HasBuiltRecords :=
  fun fields member => built fields (subset member)

/-- A value is written as a spelling of the value whose numbers are what its own are read as. -/
theorem spells_mapNumbers {change : Number → Number} (value : Value)
    (sourceFree : value.IsSourceFree) (built : value.HasBuiltRecords)
    (numbers : ∀ content, .number content ∈ value.nodes →
      Spells (.number (change content)) content.chars) (style : Style) :
    Spells (value.mapNumbers change) (style.chars value) := by
  induction value using Value.induction generalizing style with
  | list items induction =>
      have each : ∀ item ∈ items,
          Spells (item.mapNumbers change) ((style.ofItems items).1.chars item) := by
        intro item member
        have subset := nodes_item_subset member
        exact induction item member (sourceFree.of_subset subset) (built.of_subset subset)
          (fun content inItem => numbers content (subset inItem)) _
      rw [mapNumbers_list, Style.chars_list]
      exact .list (Gaps.separated_fill (style.isBlank_ofItems items) _ _ items each)
  | record fields induction =>
      have nodup : (Record.keys (fields.map fun field =>
          (field.1, field.2.mapNumbers change))).Nodup := by
        have distinct := (Record.isBuilt_iff_nodup_keys fields).mp (built fields List.mem_cons_self)
        simpa [Record.keys, Function.comp_def] using distinct
      rw [mapNumbers_record, Style.chars_record, ← Record.ofPairs_of_nodup_keys _ nodup]
      refine .record (Gaps.separated_fill (style.isBlank_ofMembers fields) _ _ fields ?_)
      intro field member
      have subset := nodes_field_subset member
      have spells := induction field member (sourceFree.of_subset subset) (built.of_subset subset)
        (fun content inField => numbers content (subset inField)) (style.ofMembers fields).1
      have gap : IsBlankRun [' '] := by
        simp [isBlank]
      have spelled := SpellsMember.mk (spellsKey_keyChars field.1) isBlankRun_nil gap spells
      simpa [Style.memberChars_eq] using spelled
  | leaf value leaf =>
      rw [Style.chars_leaf leaf]
      exact spells_leafChars leaf sourceFree numbers

theorem mapNumbers_equals {change : Number → Number} (value : Value)
    (same : ∀ content, .number content ∈ value.nodes →
      (change content).equals content = true) :
    (value.mapNumbers change).equals value = true := by
  induction value using Value.induction with
  | list items induction =>
      rw [mapNumbers_list]
      exact itemsEqual_map fun item member => induction item member fun content inItem =>
        same content (nodes_item_subset member inItem)
  | record fields induction =>
      rw [mapNumbers_record]
      exact fieldsEqual_map fun field member => induction field member fun content inField =>
        same content (nodes_field_subset member inField)
  | leaf value leaf =>
      cases value with
      | list items => cases leaf
      | record fields => cases leaf
      | number content => exact same content List.mem_cons_self
      | undefined => rfl
      | null => rfl
      | bool content => exact beq_self_eq_true content
      | text content => exact beq_self_eq_true content
      | source code => exact beq_self_eq_true code

theorem exists_spells_chars (value : Value) (sourceFree : value.IsSourceFree)
    (finite : value.HasFiniteNumbers) (built : value.HasBuiltRecords) (style : Style) :
    ∃ same, Spells same (style.chars value) ∧ same.equals value = true := by
  have : Nonempty Number := ⟨.int 0⟩
  choose! change readsBack equal using fun content member =>
    exists_readNumber_chars (finite content member)
  have spells : ∀ content, .number content ∈ value.nodes →
      Spells (.number (change content)) content.chars :=
    fun content member => spells_number (finite content member) (readsBack content member)
  exact ⟨value.mapNumbers change, spells_mapNumbers value sourceFree built spells style,
    mapNumbers_equals value equal⟩

/-! ## Writing and reading back -/

theorem write_eq_ok {value : Value} (finite : value.HasFiniteNumbers)
    (visible : ∀ code ∈ value.sources, isBlankText code = false) (indent : Nat) :
    write indent value = .ok (String.ofList ((Style.ofIndent indent).chars value)) := by
  have faultless := (fault?_eq_none_iff value).mpr ⟨finite, visible⟩
  simp [write, faultless, Style.layout_eq_chars]

theorem IsSourceFree.sources_eq_nil {value : Value} (sourceFree : value.IsSourceFree) :
    value.sources = [] :=
  List.eq_nil_iff_forall_not_mem.mpr fun code member => sourceFree code (mem_sources.mp member)

/-- A value without code whose numbers are finite can be written with every indentation, and the
text reads as a value equal to it. -/
theorem exists_read_write (indent : Nat) (value : Value) (sourceFree : value.IsSourceFree)
    (finite : value.HasFiniteNumbers) (built : value.HasBuiltRecords) :
    ∃ text same, write indent value = .ok text ∧ read text = .ok same ∧
      same.equals value = true := by
  rcases exists_spells_chars value sourceFree finite built (Style.ofIndent indent) with
      ⟨same, spells, equal⟩
  have written := write_eq_ok finite (by simp [sourceFree.sources_eq_nil]) indent
  exact ⟨_, same, written, read_of_spells spells, equal⟩

/-- A list inside a record takes several lines here, the list inside that one takes a single line,
and negative zero is written as a whole number. -/
def nestedSample : Value :=
  .record
    [("two words",
        .list [.list [.number (.float (.finite true ⟨0, finiteRanks_pos⟩)), .undefined]]),
      ("line\nbreak", .text "\u2028"), ("plain", .record [])]

theorem exists_read_write_nestedSample :
    ∃ text same, write 2 nestedSample = .ok text ∧ read text = .ok same ∧
      same.equals nestedSample = true := by
  refine exists_read_write 2 nestedSample ?_ ?_ ?_
  · simp [IsSourceFree, nestedSample, nodes, itemNodes, fieldNodes]
  · simp [HasFiniteNumbers, nestedSample, nodes, itemNodes, fieldNodes, Number.isFinite,
      Binary64.isFinite]
  · simp [HasBuiltRecords, nestedSample, nodes, itemNodes, fieldNodes,
      Record.isBuilt_iff_nodup_keys]

end Value

end EntitySchema
