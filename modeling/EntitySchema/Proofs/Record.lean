import Mathlib
import EntitySchema.Record
/-!
Laws of records: which keys an insertion leaves, in which order, and what a lookup finds after it.
A record that was built by insertions is one whose keys are pairwise distinct.
-/

namespace EntitySchema

namespace Record

variable {α : Type}

def IsBuilt (record : Record α) : Prop := ∃ pairs, record = ofPairs pairs

/-! ## One insertion -/

@[simp] theorem keys_nil : keys ([] : Record α) = [] := rfl

@[simp] theorem keys_cons (entry : String × α) (rest : Record α) :
    keys (entry :: rest) = entry.1 :: keys rest := rfl

theorem keys_append (record others : Record α) :
    keys (record ++ others) = keys record ++ keys others := List.map_append

theorem insert_of_notMem (record : Record α) (key : String) (value : α)
    (absent : key ∉ keys record) : insert record key value = record ++ [(key, value)] := by
  induction record with
  | nil => rfl
  | cons head rest induction =>
      simp only [keys_cons, List.mem_cons, not_or] at absent
      simp [insert, Ne.symm absent.1, induction absent.2]

theorem keys_insert_of_mem (record : Record α) (key : String) (value : α)
    (present : key ∈ keys record) : keys (insert record key value) = keys record := by
  induction record with
  | nil => simp at present
  | cons head rest induction =>
      by_cases equal : head.1 = key
      · simp [insert, equal]
      · have inRest : key ∈ keys rest := by
          simpa [Ne.symm equal] using present
        simp [insert, equal, induction inRest]

theorem nodup_keys_insert (record : Record α) (key : String) (value : α)
    (nodup : (keys record).Nodup) : (keys (insert record key value)).Nodup := by
  by_cases present : key ∈ keys record
  · rw [keys_insert_of_mem record key value present]
    exact nodup
  · rw [insert_of_notMem record key value present]
    rw [keys_append]
    exact nodup.append (List.nodup_singleton key) (List.disjoint_singleton.mpr present)

theorem get?_insert (record : Record α) (key wanted : String) (value : α) :
    get? (insert record key value) wanted =
      if key = wanted then some value else get? record wanted := by
  induction record with
  | nil => rfl
  | cons head rest induction =>
      by_cases equal : head.1 = key
      · by_cases found : key = wanted <;> simp [insert, get?, equal, found]
      · by_cases found : head.1 = wanted
        · subst found
          simp [insert, get?, equal, Ne.symm equal]
        · simp [insert, get?, equal, found, induction]

theorem mem_insert {record : Record α} {key : String} {value : α} {entry : String × α}
    (member : entry ∈ insert record key value) : entry = (key, value) ∨ entry ∈ record := by
  induction record with
  | nil => exact .inl (List.mem_singleton.mp member)
  | cons head rest induction =>
      by_cases equal : head.1 = key
      · simp only [insert, equal, if_true, List.mem_cons] at member
        exact member.imp_right (List.mem_cons_of_mem _)
      · simp only [insert, equal, if_false, List.mem_cons] at member
        rcases member with rfl | inRest
        · exact .inr List.mem_cons_self
        · exact (induction inRest).imp_right (List.mem_cons_of_mem _)

/-- A lookup finds the first of the items that has its key. -/
theorem get?_map {β : Type} (key : β → String) (value : β → α) (items : List β) (wanted : String) :
    get? (items.map fun item => (key item, value item)) wanted =
      (items.find? fun item => key item == wanted).map value := by
  induction items with
  | nil => rfl
  | cons item rest induction =>
      by_cases found : key item = wanted
      · simp [get?, found]
      · simp [get?, found, induction]

/-! ## Insertions one after another -/

theorem ofPairs_append_singleton (pairs : List (String × α)) (pair : String × α) :
    ofPairs (pairs ++ [pair]) = insert (ofPairs pairs) pair.1 pair.2 := by
  simp [ofPairs]

theorem nodup_keys_ofPairs (pairs : List (String × α)) : (keys (ofPairs pairs)).Nodup := by
  induction pairs using List.reverseRecOn with
  | nil => simp [ofPairs]
  | append_singleton pairs pair induction =>
      rw [ofPairs_append_singleton]
      exact nodup_keys_insert _ _ _ induction

theorem ofPairs_of_nodup_keys (pairs : List (String × α)) (nodup : (keys pairs).Nodup) :
    ofPairs pairs = pairs := by
  induction pairs using List.reverseRecOn with
  | nil => rfl
  | append_singleton pairs pair induction =>
      have parts := List.nodup_append.mp (by simpa [keys] using nodup)
      have absent : pair.1 ∉ keys pairs := fun present =>
        parts.2.2 pair.1 present pair.1 (by simp) rfl
      rw [ofPairs_append_singleton, induction parts.1, insert_of_notMem _ _ _ absent]

theorem ofPairs_subset (pairs : List (String × α)) : ofPairs pairs ⊆ pairs := by
  induction pairs using List.reverseRecOn with
  | nil => exact List.Subset.refl []
  | append_singleton pairs pair induction =>
      intro entry member
      rw [ofPairs_append_singleton] at member
      rcases mem_insert member with rfl | inRecord
      · simp
      · exact List.mem_append_left _ (induction inRecord)

/-- The records that insertions can build are those without a repeated key. -/
theorem isBuilt_iff_nodup_keys (record : Record α) : IsBuilt record ↔ (keys record).Nodup := by
  constructor
  · rintro ⟨pairs, rfl⟩
    exact nodup_keys_ofPairs pairs
  · intro nodup
    exact ⟨record, (ofPairs_of_nodup_keys record nodup).symm⟩

/-- A lookup finds the last pair that was inserted under its key. -/
theorem get?_ofPairs (pairs : List (String × α)) (wanted : String) :
    get? (ofPairs pairs) wanted = get? pairs.reverse wanted := by
  induction pairs using List.reverseRecOn with
  | nil => rfl
  | append_singleton pairs pair induction =>
      rw [ofPairs_append_singleton, get?_insert, induction, List.reverse_append]
      rfl

end Record

end EntitySchema
