import Mathlib
import EntitySchema.Proofs.Value.Nodes
/-!
The two layouts of a value in one form.

On one line or over several, a list is its items between brackets and a record its members between
braces, with commas between them. The layouts differ in the white space around the parts, and in
how the parts inside are laid out in turn.
-/

namespace EntitySchema

namespace Value

def leafChars : Value → List Char
  | .undefined => "undefined".toList
  | .null => "null".toList
  | .bool true => "true".toList
  | .bool false => "false".toList
  | .number value => value.chars
  | .text content => quotedChars content.toList
  | .source code => code.toList
  | .list _ => []
  | .record _ => []

theorem flatBefore_leaf {value : Value} (leaf : value.isComposite = false) (after : List Char) :
    flatBefore value after = leafChars value ++ after := by
  cases value with
  | list items => cases leaf
  | record fields => cases leaf
  | bool content => cases content <;> rfl
  | _ => rfl

theorem indentedBefore_leaf {value : Value} (leaf : value.isComposite = false)
    (indent depth : Nat) (after : List Char) :
    indentedBefore indent depth value after = leafChars value ++ after := by
  rw [← flatBefore_leaf leaf]
  cases value with
  | list items => cases leaf
  | record fields => cases leaf
  | _ => rfl

/-! ## Styles -/

inductive Style where
  | flat
  | indented (indent depth : Nat)
  deriving DecidableEq, Repr

namespace Style

def before : Style → Value → List Char → List Char
  | .flat, value, after => flatBefore value after
  | .indented indent depth, value, after => indentedBefore indent depth value after

def chars (style : Style) (value : Value) : List Char := style.before value []

def memberBefore (style : Style) (member : String × Value) (after : List Char) : List Char :=
  keyChars member.1 ++ ':' :: ' ' :: style.before member.2 after

def memberChars (style : Style) (member : String × Value) : List Char :=
  style.memberBefore member []

end Style

structure Gaps where
  front : List Char := []
  pad : List Char := []
  between : List Char := []
  back : List Char := []
  deriving DecidableEq, Repr

namespace Gaps

def fill (gaps : Gaps) (texts : List (List Char)) : List Char :=
  gaps.front ++
    List.intercalate (',' :: gaps.between) (texts.map fun text => gaps.pad ++ text) ++ gaps.back

def flatList : Gaps := { between := [' '] }

def flatRecord : Gaps := { front := [' '], between := [' '], back := [' '] }

def lines (indent depth : Nat) : Gaps :=
  { front := ['\n'], pad := spaces (indent * (depth + 1)), between := ['\n'],
    back := '\n' :: spaces (indent * depth) }

/-- What a writer of several parts puts down: it writes each in front of the text that follows, and
leaves that as it is. -/
theorem fill_of_writer {α : Type} (gaps : Gaps) (write : α → List Char → List Char)
    (writeAll : List α → List Char → List Char) (none : ∀ after, writeAll [] after = after)
    (last : ∀ part after, writeAll [part] after = gaps.pad ++ write part after)
    (more : ∀ part next rest after, writeAll (part :: next :: rest) after =
      gaps.pad ++ write part (',' :: (gaps.between ++ writeAll (next :: rest) after)))
    (parts : List α) (each : ∀ part ∈ parts, ∀ after, write part after = write part [] ++ after)
    (after : List Char) :
    gaps.front ++ writeAll parts (gaps.back ++ after) =
      gaps.fill (parts.map fun part => write part []) ++ after := by
  have joined : ∀ after, writeAll parts after =
      List.intercalate (',' :: gaps.between) (parts.map fun part => gaps.pad ++ write part []) ++
        after := by
    intro after
    induction parts with
    | nil => simp [none]
    | cons part rest induction =>
        have inRest := induction fun other member => each other (List.mem_cons_of_mem _ member)
        cases rest with
        | nil =>
            rw [last, each part List.mem_cons_self]
            simp
        | cons next rest =>
            rw [more, each part List.mem_cons_self, inRest]
            simp [List.intercalate_cons_cons]
  rw [joined]
  simp [fill, Function.comp_def]

end Gaps

namespace Style

def ofItems : Style → List Value → Style × Gaps
  | .flat, _ => (.flat, .flatList)
  | .indented indent depth, items =>
    if items.any isComposite then (.indented indent (depth + 1), .lines indent depth)
    else (.flat, .flatList)

def ofMembers : Style → List (String × Value) → Style × Gaps
  | style, [] => (style, {})
  | .flat, _ :: _ => (.flat, .flatRecord)
  | .indented indent depth, _ :: _ => (.indented indent (depth + 1), .lines indent depth)

theorem ofItems_map (style : Style) {transform : Value → Value}
    (composite : ∀ item, (transform item).isComposite = item.isComposite) (items : List Value) :
    style.ofItems (items.map transform) = style.ofItems items := by
  have any : (items.map transform).any isComposite = items.any isComposite := by
    simp [List.any_map, Function.comp_def, composite]
  cases style with
  | flat => rfl
  | indented indent depth => simp only [ofItems, any]

theorem ofMembers_map (style : Style) (transform : String × Value → String × Value)
    (members : List (String × Value)) :
    style.ofMembers (members.map transform) = style.ofMembers members := by
  cases members with
  | nil => rfl
  | cons member rest => cases style <;> rfl

theorem before_leaf {value : Value} (leaf : value.isComposite = false) (style : Style)
    (after : List Char) : style.before value after = leafChars value ++ after := by
  cases style with
  | flat => exact flatBefore_leaf leaf after
  | indented indent depth => exact indentedBefore_leaf leaf indent depth after

/-- The value does not change the text that it is written in front of. -/
def KeepsText (value : Value) : Prop :=
  ∀ (style : Style) (after : List Char), style.before value after = style.chars value ++ after

theorem before_flat_list (items : List Value) (each : ∀ item ∈ items, KeepsText item)
    (after : List Char) :
    before .flat (.list items) after =
      '[' :: (Gaps.flatList.fill (items.map (chars .flat)) ++ ']' :: after) :=
  congrArg ('[' :: ·) (Gaps.flatList.fill_of_writer (before .flat) flatItemsBefore (fun _ => rfl)
    (fun _ _ => rfl) (fun _ _ _ _ => rfl) items (fun item member => each item member .flat)
    (']' :: after))

theorem before_list (style : Style) (items : List Value) (each : ∀ item ∈ items, KeepsText item)
    (after : List Char) :
    style.before (.list items) after =
      '[' :: ((style.ofItems items).2.fill (items.map (style.ofItems items).1.chars) ++
        ']' :: after) := by
  cases style with
  | flat => exact before_flat_list items each after
  | indented indent depth =>
      by_cases composite : items.any isComposite
      · have written := (Gaps.lines indent depth).fill_of_writer
          (before (.indented indent (depth + 1))) (indentedItemsBefore indent (depth + 1))
          (fun _ => rfl) (fun _ _ => rfl) (fun _ _ _ _ => rfl) items
          (fun item member => each item member (.indented indent (depth + 1))) (']' :: after)
        simp only [ofItems, if_pos composite, before, indentedBefore]
        exact congrArg ('[' :: ·) written
      · simp only [ofItems, if_neg composite, before, indentedBefore]
        exact before_flat_list items each after

theorem memberBefore_eq_append {member : String × Value} (keeps : KeepsText member.2)
    (style : Style) (after : List Char) :
    style.memberBefore member after = style.memberBefore member [] ++ after := by
  have value := keeps style after
  simp [memberBefore, value, chars]

theorem before_record (style : Style) (members : List (String × Value))
    (each : ∀ member ∈ members, KeepsText member.2) (after : List Char) :
    style.before (.record members) after =
      '{' :: ((style.ofMembers members).2.fill
        (members.map (style.ofMembers members).1.memberChars) ++ '}' :: after) := by
  cases members with
  | nil => cases style <;> rfl
  | cons member rest =>
      cases style with
      | flat =>
          exact congrArg ('{' :: ·) (Gaps.flatRecord.fill_of_writer (memberBefore .flat)
            flatFieldsBefore (fun _ => rfl) (fun _ _ => rfl) (fun _ _ _ _ => rfl) (member :: rest)
            (fun other inMembers => memberBefore_eq_append (each other inMembers) .flat)
            ('}' :: after))
      | indented indent depth =>
          exact congrArg ('{' :: ·) ((Gaps.lines indent depth).fill_of_writer
            (memberBefore (.indented indent (depth + 1))) (indentedFieldsBefore indent (depth + 1))
            (fun _ => rfl) (fun _ _ => rfl) (fun _ _ _ _ => rfl) (member :: rest)
            (fun other inMembers =>
              memberBefore_eq_append (each other inMembers) (.indented indent (depth + 1)))
            ('}' :: after))

theorem keepsText (value : Value) : KeepsText value := by
  induction value using Value.induction with
  | list items induction =>
      intro style after
      simp [chars, before_list style items induction]
  | record members induction =>
      intro style after
      simp [chars, before_record style members induction]
  | leaf value leaf =>
      intro style after
      simp [chars, before_leaf leaf]

/-! ## The text of a value -/

theorem chars_leaf {value : Value} (leaf : value.isComposite = false) (style : Style) :
    style.chars value = leafChars value := by
  simp [chars, before_leaf leaf]

theorem chars_list (style : Style) (items : List Value) :
    style.chars (.list items) =
      '[' :: ((style.ofItems items).2.fill (items.map (style.ofItems items).1.chars) ++ [']']) :=
  before_list style items (fun item _ => keepsText item) []

theorem chars_record (style : Style) (members : List (String × Value)) :
    style.chars (.record members) =
      '{' :: ((style.ofMembers members).2.fill
        (members.map (style.ofMembers members).1.memberChars) ++ ['}']) :=
  before_record style members (fun member _ => keepsText member.2) []

theorem memberChars_eq (style : Style) (member : String × Value) :
    style.memberChars member = keyChars member.1 ++ ':' :: ' ' :: style.chars member.2 := rfl

def ofIndent (indent : Nat) : Style := if indent = 0 then .flat else .indented indent 0

theorem layout_eq_chars (indent : Nat) (value : Value) :
    layout indent value = (ofIndent indent).chars value := by
  by_cases zero : indent = 0 <;> simp [layout, ofIndent, zero, chars, before]

end Style

end Value

end EntitySchema
