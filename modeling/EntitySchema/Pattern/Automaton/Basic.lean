import EntitySchema.Pattern.Subject
/-!
Automata that read a text byte by byte.

States are numbered in the order in which they are added. An automaton may take only so much room:
adding a state or an alternative beyond that fails.
-/

namespace EntitySchema

namespace Pattern

structure Transition where
  first : UInt8
  last : UInt8
  next : Nat
  deriving DecidableEq, Repr

inductive State where
  | accept
  /-- Goes on without reading. -/
  | pass (next : Nat)
  | step (transition : Transition)
  /-- At most one of the transitions is possible. -/
  | steps (transitions : List Transition)
  /-- Tries alternatives in the order in which they were added, or the last one first. -/
  | choice (alternatives : Array Nat) (lastFirst : Bool)
  | check (condition : Assertion) (next : Nat)
  /-- Stores the position in a slot. -/
  | mark (slot : Nat) (next : Nat)
  deriving Repr, Inhabited

namespace State

def isChoice : State → Bool
  | .choice .. => true
  | _ => false

/-! ## Room -/

def transitionFootprint : Nat := 8

def alternativeFootprint : Nat := 4

/-- The number of bytes that a state takes. -/
def footprint : State → Nat
  | .steps transitions => 32 + transitionFootprint * transitions.length
  | .choice alternatives _ => 32 + alternativeFootprint * alternatives.size
  | _ => 32

def connectionFootprint : State → Nat
  | .choice .. => alternativeFootprint
  | _ => 0

def connectedTo (next : Nat) : State → State
  | .pass _ => .pass next
  | .step transition => .step { transition with next }
  | .choice alternatives lastFirst => .choice (alternatives.push next) lastFirst
  | .check condition _ => .check condition next
  | .mark slot _ => .mark slot next
  | state => state

end State

structure Blueprint where
  states : Array State := #[]
  footprint : Nat := 0

def maxFootprint : Nat := 10 * 1024 * 1024

abbrev Construction := StateT Blueprint Option

structure Fragment where
  entry : Nat
  exit : Nat
  deriving DecidableEq, Repr

namespace Construction

def add (state : State) : Construction Nat := fun blueprint =>
  let footprint := blueprint.footprint + state.footprint
  if footprint > maxFootprint then none
  else some (blueprint.states.size, { states := blueprint.states.push state, footprint })

def addPass : Construction Nat := add (.pass 0)

def addChoice (lastFirst : Bool) : Construction Nat := add (.choice #[] lastFirst)

def connect (source target : Nat) : Construction Unit := fun blueprint =>
  let addition :=
    match blueprint.states[source]? with
    | some state => state.connectionFootprint
    | none => 0
  let footprint := blueprint.footprint + addition
  if footprint > maxFootprint then none
  else
    some ((), { states := blueprint.states.modify source (State.connectedTo target), footprint })

def addFragment (state : State) : Construction Fragment := do
  let number ← add state
  return { entry := number, exit := number }

def chainFrom (before : Fragment) : List (Construction Fragment) → Construction Fragment
  | [] => return before
  | action :: rest => do
    let next ← action
    connect before.exit next.entry
    chainFrom { before with exit := next.exit } rest

def chain : List (Construction Fragment) → Construction Fragment
  | [] => addFragment (.pass 0)
  | action :: rest => do chainFrom (← action) rest

def chainCopies (action : Construction Fragment) (before : Fragment) :
    Nat → Construction Fragment
  | 0 => return before
  | count + 1 => do
    let next ← action
    connect before.exit next.entry
    chainCopies action { before with exit := next.exit } count

def copies (action : Construction Fragment) : Nat → Construction Fragment
  | 0 => addFragment (.pass 0)
  | count + 1 => do chainCopies action (← action) count

end Construction

end Pattern

end EntitySchema
