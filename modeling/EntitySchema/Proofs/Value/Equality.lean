import Mathlib
import EntitySchema.Proofs.Number.Equality
import EntitySchema.Proofs.Value.Numbers
/-!
Equality of values.

Values are equal if they are the same apart from their numbers and their numbers are equal one by
one. So equality of values has the laws that equality of numbers has: it is symmetric, and it is
transitive unless different whole numbers stand in the same place.
-/

namespace EntitySchema

/-! ## Lists that are related item by item -/

theorem forall₂_congr_left {α β : Type} {Related Associated : α → β → Prop} {lefts : List α}
    {rights : List β}
    (same : ∀ left ∈ lefts, ∀ right, Related left right ↔ Associated left right) :
    List.Forall₂ Related lefts rights ↔ List.Forall₂ Associated lefts rights := by
  induction lefts generalizing rights with
  | nil => simp
  | cons left rest induction =>
      rcases List.forall_mem_cons.mp same with ⟨ofLeft, ofRest⟩
      simp only [List.forall₂_cons_left_iff, ofLeft, induction ofRest]

theorem forall₂_append_iff {α : Type} {Related : α → α → Prop} {front otherFront : List α}
    (sameLength : front.length = otherFront.length) {back otherBack : List α} :
    List.Forall₂ Related (front ++ back) (otherFront ++ otherBack) ↔
      List.Forall₂ Related front otherFront ∧ List.Forall₂ Related back otherBack := by
  induction front generalizing otherFront with
  | nil =>
      rw [List.length_eq_zero_iff.mp sameLength.symm]
      simp
  | cons first rest induction =>
      cases otherFront with
      | nil => cases sameLength
      | cons otherFirst otherRest =>
          simp [induction (Nat.succ.inj sameLength), and_assoc]

/-- Related lists can be cut into their parts where the forms of the parts tell their lengths. -/
theorem forall₂_flatMap_iff {α β γ : Type} {Related : γ → γ → Prop} (form : α → β)
    (inside : α → List γ)
    (sameLength : ∀ part other, form part = form other →
      (inside part).length = (inside other).length) {parts others : List α} :
    List.Forall₂ (fun part other => form part = form other ∧
        List.Forall₂ Related (inside part) (inside other)) parts others ↔
      parts.map form = others.map form ∧
        List.Forall₂ Related (parts.flatMap inside) (others.flatMap inside) := by
  induction parts generalizing others with
  | nil => cases others <;> simp
  | cons part rest induction =>
      cases others with
      | nil => simp
      | cons other otherRest =>
          simp only [List.forall₂_cons, induction, List.map_cons, List.cons.injEq,
            List.flatMap_cons]
          constructor
          · intro each
            rcases each with ⟨⟨same, related⟩, sameRest, relatedRest⟩
            exact ⟨⟨same, sameRest⟩,
              (forall₂_append_iff (sameLength _ _ same)).mpr ⟨related, relatedRest⟩⟩
          · intro whole
            rcases whole with ⟨⟨same, sameRest⟩, joined⟩
            rcases (forall₂_append_iff (sameLength _ _ same)).mp joined with ⟨related, relatedRest⟩
            exact ⟨⟨same, related⟩, sameRest, relatedRest⟩

theorem forall₂_comp {α : Type} {Related RelatedNext : α → α → Prop} {first second third : List α}
    (related : List.Forall₂ Related first second)
    (relatedNext : List.Forall₂ RelatedNext second third) :
    List.Forall₂ (Relation.Comp Related RelatedNext) first third := by
  induction related generalizing third with
  | nil =>
      cases relatedNext
      exact .nil
  | cons head _ induction =>
      cases relatedNext with
      | cons headNext tailNext => exact .cons ⟨_, head, headNext⟩ (induction tailNext)

namespace Value

/-! ## Numbers and what is left without them -/

def number? : Value → Option Number
  | .number content => some content
  | _ => none

def numbers (value : Value) : List Number := value.nodes.filterMap number?

def shape (value : Value) : Value := value.mapNumbers fun _ => .int 0

theorem numbers_list (items : List Value) : (list items).numbers = items.flatMap numbers := by
  rw [numbers, nodes_list, List.filterMap_cons_none rfl, List.filterMap_flatMap]
  rfl

theorem numbers_record (fields : List (String × Value)) :
    (record fields).numbers = fields.flatMap fun field => field.2.numbers := by
  rw [numbers, nodes_record, List.filterMap_cons_none rfl, List.filterMap_flatMap]
  rfl

theorem shape_list (items : List Value) : (list items).shape = .list (items.map shape) :=
  mapNumbers_list _ items

theorem shape_record (fields : List (String × Value)) :
    (record fields).shape = .record (fields.map fun field => (field.1, field.2.shape)) :=
  mapNumbers_record _ fields

theorem number?_mapNumbers (change : Number → Number) (value : Value) :
    (value.mapNumbers change).number? = value.number?.map change := by
  cases value <;> rfl

theorem length_numbers_shape (value : Value) :
    value.shape.numbers.length = value.numbers.length := by
  rw [shape, numbers, nodes_mapNumbers, List.filterMap_map, Function.comp_def]
  simp only [number?_mapNumbers]
  rw [← List.map_filterMap, List.length_map, numbers]

theorem length_numbers_of_shape_eq {left right : Value} (same : left.shape = right.shape) :
    left.numbers.length = right.numbers.length := by
  rw [← length_numbers_shape, same, length_numbers_shape]

/-! ## Equality -/

theorem itemsEqual_iff {items others : List Value} :
    itemsEqual items others = true ↔
      List.Forall₂ (fun item other => item.equals other = true) items others := by
  induction items generalizing others with
  | nil => cases others <;> simp [itemsEqual]
  | cons item rest induction => cases others <;> simp [itemsEqual, induction]

theorem fieldsEqual_iff {fields others : List (String × Value)} :
    fieldsEqual fields others = true ↔
      List.Forall₂ (fun field other => field.1 = other.1 ∧ field.2.equals other.2 = true)
        fields others := by
  induction fields generalizing others with
  | nil => cases others <;> simp [fieldsEqual]
  | cons field rest induction => cases others <;> simp [fieldsEqual, induction]

def AreAlike (left right : Value) : Prop :=
  left.shape = right.shape ∧
    List.Forall₂ (fun number other => number.equals other = true) left.numbers right.numbers

theorem areAlike_list_iff {items others : List Value} :
    (list items).AreAlike (.list others) ↔ List.Forall₂ AreAlike items others := by
  rw [AreAlike, shape_list, shape_list, numbers_list, numbers_list, Value.list.injEq]
  exact (forall₂_flatMap_iff shape numbers fun _ _ => length_numbers_of_shape_eq).symm

theorem areAlike_record_iff {fields others : List (String × Value)} :
    (record fields).AreAlike (.record others) ↔
      List.Forall₂ (fun field other => field.1 = other.1 ∧ field.2.AreAlike other.2)
        fields others := by
  rw [AreAlike, shape_record, shape_record, numbers_record, numbers_record, Value.record.injEq,
    ← forall₂_flatMap_iff (fun field : String × Value => (field.1, field.2.shape))
      (fun field => field.2.numbers)
      fun _ _ same => length_numbers_of_shape_eq (Prod.mk.inj same).2]
  simp only [Prod.mk.injEq, and_assoc, AreAlike]

theorem equals_leaf_iff {left right : Value} (leaf : left.isComposite = false) :
    left.equals right = true ↔ left.AreAlike right := by
  cases left with
  | list items => cases leaf
  | record fields => cases leaf
  | _ =>
      cases right <;>
        simp [equals, AreAlike, shape, mapNumbers, numbers, nodes, number?, List.filterMap_cons]

/-- Values are equal if they are alike. -/
theorem equals_iff_areAlike {left right : Value} :
    left.equals right = true ↔ left.AreAlike right := by
  induction left using Value.induction generalizing right with
  | list items induction =>
      cases right with
      | list others =>
          rw [areAlike_list_iff, equals, itemsEqual_iff]
          exact forall₂_congr_left fun item member other => induction item member
      | _ => simp [equals, AreAlike, shape, mapNumbers]
  | record fields induction =>
      cases right with
      | record others =>
          rw [areAlike_record_iff, equals, fieldsEqual_iff]
          exact forall₂_congr_left fun field member other => and_congr_right fun _ =>
            induction field member
      | _ => simp [equals, AreAlike, shape, mapNumbers]
  | leaf left leaf => exact equals_leaf_iff leaf

theorem AreAlike.symm {left right : Value} (alike : left.AreAlike right) : right.AreAlike left := by
  refine ⟨alike.1.symm, (alike.2.imp fun number other equal => ?_).flip⟩
  rwa [flip, Number.equals_comm]

theorem equals_comm (left right : Value) : left.equals right = right.equals left := by
  rw [Bool.eq_iff_iff, equals_iff_areAlike, equals_iff_areAlike]
  exact ⟨AreAlike.symm, AreAlike.symm⟩

theorem equals_iff_forall_zip {left right : Value} (sameShape : left.shape = right.shape) :
    left.equals right = true ↔
      ∀ pair ∈ left.numbers.zip right.numbers, pair.1.equals pair.2 = true := by
  rw [equals_iff_areAlike, AreAlike, List.forall₂_iff_zip]
  constructor
  · intro alike pair member
    exact alike.2.2 member
  · intro equalPairs
    exact ⟨sameShape, length_numbers_of_shape_eq sameShape, fun member => equalPairs _ member⟩

/-! ## Values with an equal value between them -/

section Between

variable {first second third : Value} (equal : first.equals second = true)
  (equalNext : second.equals third = true)

include equal equalNext

theorem shape_eq_of_between : first.shape = third.shape :=
  (equals_iff_areAlike.mp equal).1.trans (equals_iff_areAlike.mp equalNext).1

theorem exists_between_of_mem_zip {pair : Number × Number}
    (member : pair ∈ first.numbers.zip third.numbers) :
    ∃ between : Number, pair.1.equals between = true ∧ between.equals pair.2 = true := by
  have related := forall₂_comp (equals_iff_areAlike.mp equal).2 (equals_iff_areAlike.mp equalNext).2
  exact (List.forall₂_iff_zip.mp related).2 member

theorem equals_iff_of_between :
    first.equals third = true ↔
      ∀ pair ∈ first.numbers.zip third.numbers, ¬pair.1.AreDistinctInts pair.2 := by
  rw [equals_iff_forall_zip (shape_eq_of_between equal equalNext)]
  refine forall₂_congr fun pair member => ?_
  rcases exists_between_of_mem_zip equal equalNext member with ⟨between, ofFirst, ofThird⟩
  exact Number.equals_iff_of_between ofFirst ofThird

theorem equals_of_between (firstExact : ∀ number ∈ first.numbers, number.IsExact)
    (thirdExact : ∀ number ∈ third.numbers, number.IsExact) : first.equals third = true := by
  rw [equals_iff_forall_zip (shape_eq_of_between equal equalNext)]
  intro pair member
  rcases exists_between_of_mem_zip equal equalNext member with ⟨between, ofFirst, ofThird⟩
  rcases List.of_mem_zip member with ⟨inFirst, inThird⟩
  exact Number.equals_of_between (firstExact _ inFirst) (thirdExact _ inThird) ofFirst ofThird

end Between

/-- Equality of values and of numbers is symmetric. Where a third is between two of them, they are
equal but for different whole numbers, which have one between them if they round to the same double.
Among numbers that are exact equality is transitive. -/
theorem equals_symm_and_trans_of_exact (first second third : Value) :
    first.equals second = second.equals first ∧
    (first.equals second = true → second.equals third = true →
      (first.equals third = true ↔
        ∀ pair ∈ first.numbers.zip third.numbers, ¬pair.1.AreDistinctInts pair.2) ∧
      ((∀ number ∈ first.numbers, number.IsExact) → (∀ number ∈ third.numbers, number.IsExact) →
        first.equals third = true)) ∧
    (∀ left right : Number, left.equals right = right.equals left) ∧
    (∀ left between right : Number, left.equals between = true → between.equals right = true →
      (left.equals right = true ↔ ¬left.AreDistinctInts right)) ∧
    ∀ whole other : Int64,
      (∃ between : Number, (Number.int whole).equals between = true ∧
          between.equals (.int other) = true) ↔
        (Binary64.ofInt whole.toInt).equals (Binary64.ofInt other.toInt) = true := by
  refine ⟨equals_comm first second, fun equal equalNext => ?_, Number.equals_comm,
    fun _ _ _ => Number.equals_iff_of_between, Number.exists_between_iff⟩
  exact ⟨equals_iff_of_between equal equalNext, equals_of_between equal equalNext⟩

def firstInexact : Int64 := 9007199254740993

def lastExactDouble : Binary64 := Binary64.ofInt 9007199254740992

/-- Two different whole numbers equal the same double, alone and in the same place of a list. -/
theorem not_equals_trans_firstInexact :
    (Number.int (firstInexact - 1)).equals (.float lastExactDouble) = true ∧
      (Number.float lastExactDouble).equals (.int firstInexact) = true ∧
      ¬(Number.int (firstInexact - 1)).equals (.int firstInexact) = true ∧
      (list [null, number (.int (firstInexact - 1))]).equals
        (.list [null, number (.float lastExactDouble)]) = true ∧
      (list [null, number (.float lastExactDouble)]).equals
        (.list [null, number (.int firstInexact)]) = true ∧
      ¬(list [null, number (.int (firstInexact - 1))]).equals
        (.list [null, number (.int firstInexact)]) = true := by
  rcases equals_symm_and_trans_of_exact (list [null, number (.int (firstInexact - 1))])
    (.list [null, number (.float lastExactDouble)]) (.list [null, number (.int firstInexact)]) with
    ⟨_, ofLists, _, ofNumbers, _⟩
  have below : (Number.int (firstInexact - 1)).equals (.float lastExactDouble) = true := by
    decide +kernel
  have above : (Number.float lastExactDouble).equals (.int firstInexact) = true := by
    decide +kernel
  have distinct : (Number.int (firstInexact - 1)).AreDistinctInts (.int firstInexact) :=
    ⟨_, _, rfl, rfl, by decide⟩
  have listBelow : (list [null, number (.int (firstInexact - 1))]).equals
      (.list [null, number (.float lastExactDouble)]) = true := by
    simpa [equals, itemsEqual] using below
  have listAbove : (list [null, number (.float lastExactDouble)]).equals
      (.list [null, number (.int firstInexact)]) = true := by
    simpa [equals, itemsEqual] using above
  refine ⟨below, above, fun equal => ?_, listBelow, listAbove, fun equal => ?_⟩
  · exact (ofNumbers _ _ _ below above).mp equal distinct
  · exact (ofLists listBelow listAbove).1.mp equal _ List.mem_cons_self distinct

end Value

end EntitySchema
