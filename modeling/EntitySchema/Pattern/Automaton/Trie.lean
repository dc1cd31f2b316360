import EntitySchema.Pattern.Automaton.Basic
/-!
The parts of an automaton that read one out of several words.

Words that start alike share their first states as far as the order of preference allows: a word
that ends stands between the words that were added before it and those after it.
-/

namespace EntitySchema

namespace Pattern

inductive Trie where
  | nothing
  /-- A word ends, and other words come after it. -/
  | word (rest : Trie)
  /-- Words that go on with a byte, and words that go on otherwise. -/
  | branch (byte : UInt8) (child rest : Trie)
  deriving Repr

namespace Trie

def hasWord : Trie → Bool
  | .nothing => false
  | .word _ => true
  | .branch _ _ rest => hasWord rest

def isLeaf : Trie → Bool
  | .nothing => true
  | .word rest => isLeaf rest
  | .branch .. => false

def ofWord : List UInt8 → Trie
  | [] => .word .nothing
  | byte :: bytes => .branch byte (ofWord bytes) .nothing

def addEnd : Trie → Trie
  | .nothing => .word .nothing
  | .word rest => .word (addEnd rest)
  | .branch byte child rest => .branch byte child (addEnd rest)

/-- Adds a word after those that are already there. The branches since the last word are in
ascending order. -/
def insert (bytes : List UInt8) : Trie → Trie
  | .nothing => ofWord bytes
  | .word rest =>
    match bytes with
    | [] => if rest.isLeaf then .word rest else .word (addEnd rest)
    | _ => .word (insert bytes rest)
  | .branch next child rest =>
    match bytes with
    | [] => .branch next child (addEnd rest)
    | byte :: following =>
      if rest.hasWord || next < byte then .branch next child (insert bytes rest)
      else if byte = next then .branch next (insert following child) rest
      else .branch byte (ofWord following) (.branch next child rest)

def ofWords (words : List (List UInt8)) : Trie :=
  words.foldl (fun trie bytes => trie.insert bytes) .nothing

def addBranches (alternatives : Array Nat) (transitions : List Transition) :
    Construction (Array Nat) :=
  match transitions with
  | [] => return alternatives
  | [transition] => return alternatives.push (← Construction.add (.step transition))
  | transitions => return alternatives.push (← Construction.add (.steps transitions.reverse))

/-- Constructs the states for the words, given the branches since the last word, the last one
first, and the alternatives before them. -/
def construct (exit : Nat) : Trie → List Transition → Array Nat → Construction Nat
  | .nothing, transitions, alternatives => do
    Construction.add (.choice (← addBranches alternatives transitions) false)
  | .word rest, transitions, alternatives => do
    let alternatives ← addBranches alternatives transitions
    construct exit rest [] (alternatives.push exit)
  | .branch byte child rest, transitions, alternatives => do
    let next ← if child.isLeaf then pure exit else construct exit child [] #[]
    construct exit rest ({ first := byte, last := byte, next } :: transitions) alternatives

def fragment (trie : Trie) : Construction Fragment := do
  let exit ← Construction.addPass
  return { entry := ← construct exit trie [] #[], exit }

end Trie

end Pattern

end EntitySchema
