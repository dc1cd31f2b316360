import Mathlib
import EntitySchema.Proofs.Value.Layout
/-!
Which values cannot be written, and why.

A value is refused for the first node, in the order of its text, that means nothing in source text.
How it would have been laid out makes no difference.
-/

namespace EntitySchema

namespace Value

inductive IsRefused : Value → String → Prop
  | number {content : Number} : content.isFinite = false →
      IsRefused (.number content)
        ("non-finite number " ++ content.text ++ " has no literal form")
  | source {code : String} : (∀ character ∈ code.toList, isBlank character = true) →
      IsRefused (.source code) "empty source fragment"

def IsFirstRefusal (nodes : List Value) (reason : String) : Prop :=
  ∃ before node after, nodes = before ++ node :: after ∧
    (∀ earlier ∈ before, ∀ other, ¬earlier.IsRefused other) ∧ node.IsRefused reason

/-! ## The first fault -/

theorem isRefused_of_nodeFault? {node : Value} {fault : WriteFault}
    (found : node.nodeFault? = some fault) : node.IsRefused fault.reason := by
  cases node with
  | number content =>
      cases finite : content.isFinite with
      | true => simp [nodeFault?, finite] at found
      | false =>
          simp only [nodeFault?, finite] at found
          cases found
          exact .number finite
  | source code =>
      cases blank : isBlankText code with
      | false => simp [nodeFault?, blank] at found
      | true =>
          simp only [nodeFault?, blank] at found
          cases found
          exact .source (List.all_eq_true.mp blank)
  | _ => cases found

theorem nodeFault?_ne_none_of_isRefused {node : Value} {reason : String}
    (refused : node.IsRefused reason) : node.nodeFault? ≠ none := by
  cases refused with
  | number infinite => simp [nodeFault?, infinite]
  | source blank => simp [nodeFault?, isBlankText, List.all_eq_true.mpr blank]

theorem isFirstRefusal_of_fault? {value : Value} {fault : WriteFault}
    (found : value.fault? = some fault) : IsFirstRefusal value.nodes fault.reason := by
  rw [fault?_eq_findSome?_nodes, List.findSome?_eq_some_iff] at found
  rcases found with ⟨before, node, after, split, ofNode, ofEarlier⟩
  refine ⟨before, node, after, split, ?_, isRefused_of_nodeFault? ofNode⟩
  intro earlier member other refused
  exact nodeFault?_ne_none_of_isRefused refused (ofEarlier earlier member)

theorem exists_fault?_iff {value : Value} :
    (∃ fault, value.fault? = some fault) ↔
      ∃ node ∈ value.nodes, ∃ reason, node.IsRefused reason := by
  constructor
  · intro faulty
    rcases faulty with ⟨fault, found⟩
    rcases isFirstRefusal_of_fault? found with ⟨before, node, after, split, _, refused⟩
    exact ⟨node, by simp [split], fault.reason, refused⟩
  · intro inside
    rcases inside with ⟨node, member, reason, refused⟩
    rw [← Option.ne_none_iff_exists', fault?_eq_findSome?_nodes]
    intro faultless
    exact nodeFault?_ne_none_of_isRefused refused
      (List.findSome?_eq_none_iff.mp faultless node member)

/-! ## The order of the text -/

theorem flatten_sublist_intercalate (separator : List Char) (texts : List (List Char)) :
    texts.flatten.Sublist (List.intercalate separator texts) := by
  induction texts with
  | nil => exact .slnil
  | cons text rest induction =>
      cases rest with
      | nil => simp
      | cons next rest =>
          rw [List.intercalate_cons_cons, List.flatten_cons, List.append_assoc]
          exact (List.Sublist.refl text).append
            (induction.trans (List.sublist_append_right separator _))

theorem Gaps.flatMap_sublist_fill {α : Type} (gaps : Gaps) {parts : List α}
    {inside text : α → List Char} (each : ∀ part ∈ parts, (inside part).Sublist (text part)) :
    (parts.flatMap inside).Sublist (gaps.fill (parts.map text)) := by
  have padded : (parts.flatMap inside).Sublist
      ((parts.map text).map fun text => gaps.pad ++ text).flatten := by
    rw [List.map_map, ← List.flatMap_def]
    induction parts with
    | nil => exact .slnil
    | cons part rest induction =>
        rw [List.flatMap_cons, List.flatMap_cons]
        refine List.Sublist.append ?_ (induction fun other member =>
          each other (List.mem_cons_of_mem _ member))
        exact (each part List.mem_cons_self).trans (List.sublist_append_right gaps.pad _)
  have joined := padded.trans (flatten_sublist_intercalate (',' :: gaps.between) _)
  exact (joined.trans (List.sublist_append_right gaps.front _)).trans
    (List.sublist_append_left _ gaps.back)

theorem flatMap_leafChars_list (items : List Value) :
    (list items).nodes.flatMap leafChars =
      items.flatMap fun item => item.nodes.flatMap leafChars := by
  rw [nodes_list, List.flatMap_cons, ← List.flatMap_assoc]
  rfl

theorem flatMap_leafChars_record (fields : List (String × Value)) :
    (record fields).nodes.flatMap leafChars =
      fields.flatMap fun field => field.2.nodes.flatMap leafChars := by
  rw [nodes_record, List.flatMap_cons, ← List.flatMap_assoc]
  rfl

/-- The texts of the nodes stand in the text of the value in the order of the nodes. -/
theorem Style.leafChars_sublist_chars (value : Value) (style : Style) :
    (value.nodes.flatMap leafChars).Sublist (style.chars value) := by
  induction value using Value.induction generalizing style with
  | list items induction =>
      rw [flatMap_leafChars_list, chars_list]
      exact ((Gaps.flatMap_sublist_fill _ fun item member => induction item member _).trans
        (List.sublist_append_left _ _)).cons _
  | record fields induction =>
      rw [flatMap_leafChars_record, chars_record]
      refine ((Gaps.flatMap_sublist_fill _ fun field member => ?_).trans
        (List.sublist_append_left _ _)).cons _
      rw [memberChars_eq]
      exact (((induction field member _).cons _).cons _).trans (List.sublist_append_right _ _)
  | leaf value leaf =>
      rw [nodes_leaf leaf, chars_leaf leaf]
      simp

/-! ## Writing -/

/-- A value fails to be written just if one of its nodes is refused. The reason given is that of the
first one in the order of the text, and the indentation has no part in it. -/
theorem write_fails_at_first_refusal (value : Value) :
    (∀ indent, (∃ fault, value.write indent = .error fault) ↔
      ∃ node ∈ value.nodes, ∃ reason, node.IsRefused reason) ∧
    (∀ indent fault, value.write indent = .error fault →
      IsFirstRefusal value.nodes fault.reason) ∧
    (∀ indent other fault, value.write indent = .error fault ↔
      value.write other = .error fault) ∧
    ∀ indent, (value.nodes.flatMap leafChars).Sublist (value.layout indent) := by
  simp only [write_eq_error_iff, implies_true, true_and]
  refine ⟨fun _ => exists_fault?_iff, fun _ _ found => isFirstRefusal_of_fault? found, ?_⟩
  intro indent
  rw [Style.layout_eq_chars]
  exact Style.leafChars_sublist_chars value _

end Value

end EntitySchema
