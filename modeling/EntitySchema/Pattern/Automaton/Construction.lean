import EntitySchema.Pattern.Automaton.ByteTree
import EntitySchema.Pattern.Automaton.Trie
/-!
Automata for regular expressions.

An automaton reads the text forwards, or backwards from where a match ends. An expression is usable
if its automata in both directions do not take too much room.
-/

namespace EntitySchema

namespace Pattern

inductive Direction where
  | forward
  | backward
  deriving DecidableEq, Repr

/-- An automaton with the states where it starts: to look for a match anywhere, and for one that
begins at the given position. -/
structure Automaton where
  states : Array State
  searchStart : Nat
  matchStart : Nat

namespace Construction

def inOrder {α : Type} (direction : Direction) (elements : List α) : List α :=
  match direction with
  | .forward => elements
  | .backward => elements.reverse

/-! ## Literals and classes -/

def addByte (byte : UInt8) : Construction Fragment :=
  addFragment (.step { first := byte, last := byte, next := 0 })

def literal (direction : Direction) (bytes : List UInt8) : Construction Fragment :=
  chain ((inOrder direction bytes).map addByte)

def isAscii (ranges : CodeRanges) : Bool := List.all ranges fun range => range.2 < 0x80

def oneOf (direction : Direction) (ranges : CodeRanges) : Construction Fragment :=
  if isAscii ranges then do
    let exit ← addPass
    let transitions := ranges.map fun (first, last) =>
      ({ first := UInt8.ofNat first, last := UInt8.ofNat last, next := exit } : Transition)
    return { entry := ← add (.steps transitions), exit }
  else
    match direction with
    | .forward => ByteTree.forwardFragment (ByteRange.sequencesOf ranges)
    | .backward => ByteTree.backwardFragment (ByteRange.sequencesOf ranges)

/-! ## Repetitions -/

def optional (greedy : Bool) (body : Construction Fragment) : Construction Fragment := do
  let choice ← addChoice !greedy
  let inner ← body
  let exit ← addPass
  connect choice inner.entry
  connect choice exit
  connect inner.exit exit
  return { entry := choice, exit }

def anyNumber (greedy : Bool) (body : Construction Fragment) : Construction Fragment := do
  let choice ← addChoice !greedy
  let inner ← body
  connect choice inner.entry
  connect inner.exit choice
  return { entry := choice, exit := choice }

def anyNumberOfEmpty (greedy : Bool) (body : Construction Fragment) :
    Construction Fragment := do
  let inner ← body
  let again ← addChoice !greedy
  connect inner.exit again
  connect again inner.entry
  let choice ← addChoice !greedy
  let exit ← addPass
  connect choice inner.entry
  connect choice exit
  connect again exit
  return { entry := choice, exit }

def atLeastOne (greedy : Bool) (body : Construction Fragment) : Construction Fragment := do
  let inner ← body
  let again ← addChoice !greedy
  connect inner.exit again
  connect again inner.entry
  return { entry := inner.entry, exit := again }

def atLeast (greedy : Bool) (least : Nat) (body : Construction Fragment) :
    Construction Fragment := do
  let before ← copies body (least - 1)
  let last ← body
  let again ← addChoice !greedy
  connect before.exit last.entry
  connect last.exit again
  connect again last.entry
  return { entry := before.entry, exit := again }

/-- Adds copies that may be left out, each with all that follow it, and gives the end of the last
one. -/
def optionalCopies (greedy : Bool) (body : Construction Fragment) (exit : Nat) :
    Nat → Nat → Construction Nat
  | 0, before => return before
  | count + 1, before => do
    let choice ← addChoice !greedy
    let inner ← body
    connect before choice
    connect choice inner.entry
    connect choice exit
    optionalCopies greedy body exit count inner.exit

def between (greedy : Bool) (least most : Nat) (body : Construction Fragment) :
    Construction Fragment := do
  let before ← copies body least
  let exit ← addPass
  let last ← optionalCopies greedy body exit (most - least) before.exit
  connect last exit
  return { entry := before.entry, exit }

def repetition (least : Nat) (most : Option Nat) (greedy takesText : Bool)
    (body : Construction Fragment) : Construction Fragment :=
  match least, most with
  | 0, some 1 => optional greedy body
  | 0, none => if takesText then anyNumber greedy body else anyNumberOfEmpty greedy body
  | 1, none => atLeastOne greedy body
  | least, none => atLeast greedy least body
  | least, some most => if least = most then copies body least else between greedy least most body

/-! ## Choices -/

def addAlternatives (choice exit : Nat) : List (Construction Fragment) → Construction Unit
  | [] => return
  | alternative :: rest => do
    let inner ← alternative
    connect choice inner.entry
    connect inner.exit exit
    addAlternatives choice exit rest

def alternatives : List (Construction Fragment) → Construction Fragment
  | [] => addFragment (.steps [])
  | [alternative] => alternative
  | alternative :: other :: rest => do
    let first ← alternative
    let second ← other
    let choice ← addChoice false
    let exit ← addPass
    connect choice first.entry
    connect first.exit exit
    connect choice second.entry
    connect second.exit exit
    addAlternatives choice exit rest
    return { entry := choice, exit }

def literalOf? : Form → Option (List UInt8)
  | .literal bytes => some bytes
  | _ => none

def group (number : Nat) (body : Construction Fragment) : Construction Fragment := do
  let before ← add (.mark (2 * number) 0)
  let inner ← body
  let after ← add (.mark (2 * number + 1) 0)
  connect before inner.entry
  connect inner.exit after
  return { entry := before, exit := after }

/-! ## Whole expressions -/

mutual

/-- The fragment for a form. Groups are only kept where the text is read forwards. -/
def ofForm (direction : Direction) : Form → Construction Fragment
  | .empty => addFragment (.pass 0)
  | .literal bytes => literal direction bytes
  | .set ranges => oneOf direction ranges
  | .look condition =>
    match direction with
    | .forward => addFragment (.check condition 0)
    | .backward => addFragment (.check condition.reversed 0)
  | .repetition least most greedy body =>
    let takesText := body.minLength.any (0 < ·)
    repetition least most greedy takesText (ofForm direction body)
  | .group number body =>
    match direction with
    | .forward => group number (ofForm direction body)
    | .backward => ofForm direction body
  | .sequence parts => chain (inOrder direction (ofForms direction parts))
  | .choice forms =>
    match forms.mapM literalOf? with
    | some words => (Trie.ofWords (words.map (inOrder direction))).fragment
    | none => alternatives (ofForms direction forms)

def ofForms (direction : Direction) : List Form → List (Construction Fragment)
  | [] => []
  | form :: rest => ofForm direction form :: ofForms direction rest

end

def isAnchored (direction : Direction) (form : Form) : Bool :=
  match direction with
  | .forward => form.startsAt .startOfText
  | .backward => form.endsAt .endOfText

def addAnyByte : Construction Fragment := do
  let exit ← addPass
  return { entry := ← add (.steps [{ first := 0, last := 255, next := exit }]), exit }

def addSkip (direction : Direction) (form : Form) : Construction Fragment :=
  if isAnchored direction form then addFragment (.pass 0) else anyNumber false addAnyByte

def whole (direction : Direction) (form : Form) : Construction (Nat × Nat) := do
  let skip ← addSkip direction form
  let found ← ofForm direction (.group 0 form)
  let accept ← add .accept
  connect found.exit accept
  connect skip.exit found.entry
  return (skip.entry, found.entry)

end Construction

namespace Automaton

def ofFormIn? (direction : Direction) (form : Form) : Option Automaton := do
  let ((searchStart, matchStart), blueprint) ← (Construction.whole direction form).run {}
  return { states := blueprint.states, searchStart, matchStart }

/-- The automaton that reads forwards. There is none unless there is also one that reads
backwards. -/
def ofForm? (form : Form) : Option Automaton := do
  let automaton ← ofFormIn? .forward form
  discard (ofFormIn? .backward form)
  return automaton

end Automaton

end Pattern

end EntitySchema
