import Mathlib
import EntitySchema.Proofs.Record
/-!
What a record remembers of the insertions that built it: the order in which its keys came, and
under each key the value that came last.
-/

namespace EntitySchema

namespace Record

variable {α : Type}

/-! ## One insertion -/

theorem keys_insert (record : Record α) (key : String) (value : α) :
    keys (insert record key value) =
      if key ∈ keys record then keys record else keys record ++ [key] := by
  split_ifs with present
  · exact keys_insert_of_mem record key value present
  · rw [insert_of_notMem record key value present, keys_append]
    rfl

/-- Only two keys that are both new can leave a trace of the order in which they came. -/
theorem insert_insert_comm {record : Record α} {key other : String} (different : key ≠ other)
    (present : key ∈ keys record) (value second : α) :
    insert (insert record key value) other second =
      insert (insert record other second) key value := by
  induction record with
  | nil => simp at present
  | cons head rest induction =>
      by_cases isKey : head.1 = key
      · simp [insert, isKey, different]
      · have inRest : key ∈ keys rest := by
          simpa [Ne.symm isKey] using present
        by_cases isOther : head.1 = other
        · simp [insert, isOther, Ne.symm different]
        · simp [insert, isKey, isOther, induction inRest]

/-! ## Lookups -/

/-- A lookup finds the entry that no other entry of its key precedes. -/
theorem get?_eq_some_iff {record : Record α} {key : String} {value : α} :
    get? record key = some value ↔
      ∃ before after, record = before ++ (key, value) :: after ∧ key ∉ keys before := by
  induction record with
  | nil => simp [get?]
  | cons head rest induction =>
      by_cases found : head.1 = key
      · subst found
        simp only [get?, if_true, Option.some.injEq]
        constructor
        · rintro rfl
          exact ⟨[], rest, rfl, by simp⟩
        · rintro ⟨before, after, equal, absent⟩
          cases before with
          | nil => exact congrArg Prod.snd (List.cons.inj equal).1
          | cons first before =>
              have isFirst : head = first := (List.cons.inj equal).1
              simp [isFirst] at absent
      · simp only [get?, found, if_false]
        rw [induction]
        constructor
        · rintro ⟨before, after, rfl, absent⟩
          exact ⟨head :: before, after, rfl, by simp [Ne.symm found, absent]⟩
        · rintro ⟨before, after, equal, absent⟩
          cases before with
          | nil => exact absurd (congrArg Prod.fst (List.cons.inj equal).1) found
          | cons first before =>
              simp only [keys_cons, List.mem_cons, not_or] at absent
              exact ⟨before, after, (List.cons.inj equal).2, absent.2⟩

theorem get?_eq_none_iff {record : Record α} {key : String} :
    get? record key = none ↔ key ∉ keys record := by
  induction record with
  | nil => simp [get?]
  | cons head rest induction =>
      by_cases found : head.1 = key
      · simp [get?, found]
      · simp [get?, found, Ne.symm found, induction]

/-! ## A history of insertions -/

theorem keys_reverse (record : Record α) : keys record.reverse = (keys record).reverse :=
  List.map_reverse

theorem mem_keys_ofPairs {pairs : List (String × α)} {key : String} :
    key ∈ keys (ofPairs pairs) ↔ key ∈ keys pairs := by
  rw [← not_iff_not, ← get?_eq_none_iff, get?_ofPairs, get?_eq_none_iff, keys_reverse,
    List.mem_reverse]

/-- The keys stand in the order in which they first came. -/
theorem pairwise_keys_ofPairs (pairs : List (String × α)) :
    (keys (ofPairs pairs)).Pairwise fun earlier later =>
      (keys pairs).idxOf earlier < (keys pairs).idxOf later := by
  induction pairs using List.reverseRecOn with
  | nil => exact List.Pairwise.nil
  | append_singleton pairs pair induction =>
      have sameIndex : ∀ key ∈ keys (ofPairs pairs),
          (keys (pairs ++ [pair])).idxOf key = (keys pairs).idxOf key := by
        intro key member
        rw [keys_append]
        exact List.idxOf_append_of_mem (mem_keys_ofPairs.mp member)
      have earlierInOrder : (keys (ofPairs pairs)).Pairwise fun earlier later =>
          (keys (pairs ++ [pair])).idxOf earlier < (keys (pairs ++ [pair])).idxOf later := by
        refine induction.imp_of_mem ?_
        intro earlier later earlierMem laterMem before
        rwa [sameIndex earlier earlierMem, sameIndex later laterMem]
      rw [ofPairs_append_singleton, keys_insert]
      split_ifs with present
      · exact earlierInOrder
      · -- A new key comes last, and its first insertion is the one that was just made.
        have absent : pair.1 ∉ keys pairs := fun member => present (mem_keys_ofPairs.mpr member)
        refine List.pairwise_append.mpr
          ⟨earlierInOrder, List.pairwise_singleton _ _, ?_⟩
        intro earlier earlierMem later laterMem
        obtain rfl := List.mem_singleton.mp laterMem
        have atEnd : (keys (pairs ++ [pair])).idxOf pair.1 = (keys pairs).length := by
          rw [keys_append, List.idxOf_append_of_notMem absent]
          simp
        rw [sameIndex earlier earlierMem, atEnd]
        exact List.idxOf_lt_length_of_mem (mem_keys_ofPairs.mp earlierMem)

/-- A lookup finds the insertion that no other insertion of its key follows. -/
theorem get?_ofPairs_eq_some_iff {pairs : List (String × α)} {key : String} {value : α} :
    get? (ofPairs pairs) key = some value ↔
      ∃ before after, pairs = before ++ (key, value) :: after ∧ key ∉ keys after := by
  rw [get?_ofPairs, get?_eq_some_iff]
  constructor
  · rintro ⟨after, before, reversed, absent⟩
    refine ⟨before.reverse, after.reverse, ?_, ?_⟩
    · rw [← List.reverse_reverse pairs, reversed]
      simp
    · rwa [keys_reverse, List.mem_reverse]
  · rintro ⟨before, after, rfl, absent⟩
    refine ⟨after.reverse, before.reverse, by simp, ?_⟩
    rwa [keys_reverse, List.mem_reverse]

/-- What insertions, one after another into the empty record, leave behind: every key once and in
the order of first insertion, and under it the value of its last insertion. From then on it does
not matter in which order the values of two such keys are replaced. -/
theorem ofPairs_remembers (pairs : List (String × α)) :
    (keys (ofPairs pairs)).Nodup ∧
    ((keys (ofPairs pairs)).Pairwise fun earlier later =>
      (keys pairs).idxOf earlier < (keys pairs).idxOf later) ∧
    (∀ key, key ∈ keys (ofPairs pairs) ↔ key ∈ keys pairs) ∧
    (∀ key value, get? (ofPairs pairs) key = some value ↔
      ∃ before after, pairs = before ++ (key, value) :: after ∧ key ∉ keys after) ∧
    (∀ key, get? (ofPairs pairs) key = none ↔ key ∉ keys pairs) ∧
    ∀ key other value second, key ≠ other →
      key ∈ keys (ofPairs pairs) → other ∈ keys (ofPairs pairs) →
      insert (insert (ofPairs pairs) key value) other second =
        insert (insert (ofPairs pairs) other second) key value := by
  refine ⟨nodup_keys_ofPairs pairs, pairwise_keys_ofPairs pairs, fun key => mem_keys_ofPairs,
    fun key value => get?_ofPairs_eq_some_iff, ?_, ?_⟩
  · intro key
    rw [get?_eq_none_iff, mem_keys_ofPairs]
  · intro key other value second different present _
    exact insert_insert_comm different present value second

theorem ofPairs_remembers_repeated_key :
    keys (ofPairs [("b", 1), ("a", 2), ("b", 3)]) = ["b", "a"] ∧
    get? (ofPairs [("b", 1), ("a", 2), ("b", 3)]) "b" = some 3 ∧
    insert (insert (ofPairs [("b", 1), ("a", 2), ("b", 3)]) "b" 4) "a" 5 =
      insert (insert (ofPairs [("b", 1), ("a", 2), ("b", 3)]) "a" 5) "b" 4 := by
  obtain ⟨_, _, _, found, _, commute⟩ := ofPairs_remembers [("b", 1), ("a", 2), ("b", 3)]
  refine ⟨by decide, (found "b" 3).mpr ⟨[("b", 1), ("a", 2)], [], rfl, by simp⟩, ?_⟩
  exact commute "b" "a" 4 5 (by decide) (by decide) (by decide)

end Record

end EntitySchema
