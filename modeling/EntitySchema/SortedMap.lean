/-!
Maps from text in the order of their keys. Keys are ordered by code points, which is also the
order of their UTF-8 bytes.
-/

namespace EntitySchema

structure SortedMap (α : Type) where
  entries : List (String × α)
  sorted : entries.Pairwise fun left right => left.1 < right.1

namespace SortedMap

variable {α : Type}

def empty : SortedMap α := { entries := [], sorted := .nil }

def isEmpty (map : SortedMap α) : Bool := map.entries.isEmpty

def get? (map : SortedMap α) (key : String) : Option α :=
  (map.entries.find? fun entry => entry.1 == key).map Prod.snd

def insertEntry (key : String) (value : α) : List (String × α) → List (String × α)
  | [] => [(key, value)]
  | (head, old) :: rest =>
    if key < head then (key, value) :: (head, old) :: rest
    else if head = key then (key, value) :: rest
    else (head, old) :: insertEntry key value rest

theorem key_of_mem_insertEntry {key : String} {value : α} {entries : List (String × α)}
    {entry : String × α} (member : entry ∈ insertEntry key value entries) :
    entry.1 = key ∨ entry ∈ entries := by
  induction entries with
  | nil =>
    simp only [insertEntry, List.mem_singleton] at member
    exact .inl (by rw [member])
  | cons head rest induction =>
    obtain ⟨headKey, old⟩ := head
    rw [insertEntry] at member
    split at member
    · rcases List.mem_cons.mp member with equal | member
      · exact .inl (by rw [equal])
      · exact .inr member
    · split at member
      · rcases List.mem_cons.mp member with equal | member
        · exact .inl (by rw [equal])
        · exact .inr (List.mem_cons_of_mem _ member)
      · rcases List.mem_cons.mp member with equal | member
        · exact .inr (by rw [equal]; exact List.mem_cons_self)
        · rcases induction member with equal | member
          · exact .inl equal
          · exact .inr (List.mem_cons_of_mem _ member)

theorem insertEntry_sorted (key : String) (value : α) {entries : List (String × α)}
    (sorted : entries.Pairwise fun left right => left.1 < right.1) :
    (insertEntry key value entries).Pairwise fun left right => left.1 < right.1 := by
  induction entries with
  | nil => simp [insertEntry]
  | cons head rest induction =>
    obtain ⟨headKey, old⟩ := head
    have parts := List.pairwise_cons.mp sorted
    rw [insertEntry]
    split
    · rename_i before
      refine List.pairwise_cons.mpr ⟨fun entry member => ?_, sorted⟩
      rcases List.mem_cons.mp member with equal | member
      · rw [equal]
        exact before
      · exact String.lt_trans before (parts.1 entry member)
    · split
      · rename_i same
        subst same
        exact List.pairwise_cons.mpr ⟨parts.1, parts.2⟩
      · rename_i notBefore different
        refine List.pairwise_cons.mpr ⟨fun entry member => ?_, induction parts.2⟩
        rcases key_of_mem_insertEntry member with equal | member
        · rw [equal]
          exact Decidable.byContradiction fun notAfter =>
            different (String.le_antisymm (String.not_lt.mp notBefore) (String.not_lt.mp notAfter))
        · exact parts.1 entry member

def insert (map : SortedMap α) (key : String) (value : α) : SortedMap α :=
  { entries := insertEntry key value map.entries
    sorted := insertEntry_sorted key value map.sorted }

def ofPairs (pairs : List (String × α)) : SortedMap α :=
  pairs.foldl (fun map pair => map.insert pair.1 pair.2) empty

end SortedMap

end EntitySchema
