import EntitySchema.Json.Basic
/-!
Tables of a TOML document while it is read.

How a table came about decides how it may grow: a header may complete a table that was only implied
by the header of another, dotted keys may only grow tables made by dotted keys, and nothing may
grow an inline table.
-/

namespace EntitySchema

namespace Toml

inductive Origin where
  | header
  | implied
  | dotted
  | inline
  deriving DecidableEq, Repr

inductive Node where
  | leaf (value : Json)
  | table (origin : Origin) (entries : List (String × Node))
  deriving Repr

abbrev Entries := List (String × Node)

mutual

def Node.toJson : Node → Json
  | .leaf value => value
  | .table _ entries => .object (entriesToJson entries)

def entriesToJson : List (String × Node) → List (String × Json)
  | [] => []
  | (key, node) :: rest => (key, node.toJson) :: entriesToJson rest

end

namespace Entries

def find? (entries : Entries) (key : String) : Option Node := List.lookup key entries

def replace (entries : Entries) (key : String) (node : Node) : Entries :=
  entries.map fun entry => if entry.1 = key then (key, node) else entry

def add (node : Node) : List String → Entries → Option Entries
  | [], _ => none
  | [key], entries => if (entries.find? key).isSome then none else some (entries ++ [(key, node)])
  | key :: path, entries =>
    match entries.find? key with
    | none => (add node path []).map fun inner => entries ++ [(key, .table .dotted inner)]
    | some (.table .dotted inner) =>
      (add node path inner).map fun inner => entries.replace key (.table .dotted inner)
    | some _ => none

def openTable : List String → Entries → Option Entries
  | [], _ => none
  | [key], entries =>
    match entries.find? key with
    | none => some (entries ++ [(key, .table .header [])])
    | some (.table .implied inner) => some (entries.replace key (.table .header inner))
    | some _ => none
  | key :: path, entries =>
    match entries.find? key with
    | none => (openTable path []).map fun inner => entries ++ [(key, .table .implied inner)]
    | some (.table .inline _) => none
    | some (.table origin inner) =>
      (openTable path inner).map fun inner => entries.replace key (.table origin inner)
    | some (.leaf _) => none

def addBelow (node : Node) (keys : List String) : List String → Entries → Option Entries
  | [], entries => entries.add node keys
  | key :: path, entries =>
    match entries.find? key with
    | some (.table origin inner) =>
      (addBelow node keys path inner).map fun inner => entries.replace key (.table origin inner)
    | _ => none

end Entries

end Toml

end EntitySchema
