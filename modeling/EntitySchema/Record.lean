/-!
Records: entries under text keys, in the order in which their keys were first inserted. Inserting
a key again replaces its value in place.
-/

namespace EntitySchema

abbrev Record (α : Type) := List (String × α)

namespace Record

variable {α : Type}

def insert : Record α → String → α → Record α
  | [], key, value => [(key, value)]
  | (head, old) :: rest, key, value =>
    if head = key then (head, value) :: rest else (head, old) :: insert rest key value

def get? : Record α → String → Option α
  | [], _ => none
  | (head, value) :: rest, key => if head = key then some value else get? rest key

def keys (record : Record α) : List String := record.map Prod.fst

def ofPairs (pairs : List (String × α)) : Record α :=
  pairs.foldl (fun record pair => insert record pair.1 pair.2) []

example : ofPairs [("a", 1), ("b", 2), ("a", 3)] = [("a", 3), ("b", 2)] := by decide

end Record

end EntitySchema
