import EntitySchema.Pattern.Automaton.Construction
import Std.Data.HashSet
/-!
Running an automaton on a text.

The alternatives of a choice are tried in order, each to its end. A choice that has been reached
before at the same position has failed there, and is not tried again; this bounds the work by the
number of states and positions.
-/

namespace EntitySchema

namespace Pattern

/-- The positions that have been stored. A slot outside of the array is not kept. -/
abbrev Slots := Array (Option Nat)

structure Thread where
  state : Nat
  position : Nat
  slots : Slots
  deriving Repr

inductive Outcome where
  | found
  /-- The threads to be tried next, the preferred one first. -/
  | next (threads : List Thread)

def Transition.accepts (transition : Transition) (byte : UInt8) : Bool :=
  transition.first ≤ byte && byte ≤ transition.last

namespace Automaton

def stepOver (subject : Subject) (thread : Thread) (transitions : List Transition) :
    List Thread :=
  match subject.byte? thread.position with
  | none => []
  | some byte =>
    match transitions.find? fun transition => transition.accepts byte with
    | some transition =>
      [{ thread with state := transition.next, position := thread.position + 1 }]
    | none => []

def tryState (subject : Subject) (thread : Thread) : State → Outcome
  | .accept => .found
  | .pass next => .next [{ thread with state := next }]
  | .step transition => .next (stepOver subject thread [transition])
  | .steps transitions => .next (stepOver subject thread transitions)
  | .choice alternatives lastFirst =>
    let states := if lastFirst then alternatives.toList.reverse else alternatives.toList
    .next (states.map fun state => { thread with state })
  | .check condition next =>
    .next (if subject.holds thread.position condition then [{ thread with state := next }] else [])
  | .mark slot next =>
    .next [{ thread with state := next
                         slots := thread.slots.setIfInBounds slot (some thread.position) }]

def run (states : Array State) (subject : Subject) :
    Nat → Std.HashSet Nat → List Thread → Option Thread
  | 0, _, _ => none
  | _, _, [] => none
  | fuel + 1, reached, thread :: rest =>
    match states[thread.state]? with
    | none => none
    | some state =>
      match tryState subject thread state with
      | .found => some thread
      | .next threads =>
        if state.isChoice then
          let place := thread.state * (subject.size + 1) + thread.position
          if reached.contains place then run states subject fuel reached rest
          else run states subject fuel (reached.insert place) (threads ++ rest)
        else run states subject fuel reached (threads ++ rest)

/-- At each position, each alternative of a choice leads through each state at most once before the
next choice. -/
def maxTries (automaton : Automaton) (subject : Subject) : Nat :=
  maxFootprint * (automaton.states.size + 1) * (subject.size + 1)

def isFoundIn (automaton : Automaton) (subject : Subject) : Bool :=
  (run automaton.states subject (automaton.maxTries subject) {}
    [{ state := automaton.searchStart, position := 0, slots := #[] }]).isSome

/-- The preferred match that begins at a position: where it ends, and the positions in the first
slots. -/
def matchAt? (automaton : Automaton) (subject : Subject) (position slotCount : Nat) :
    Option Thread :=
  run automaton.states subject (automaton.maxTries subject) {}
    [{ state := automaton.matchStart, position, slots := Array.replicate slotCount none }]

end Automaton

end Pattern

end EntitySchema
