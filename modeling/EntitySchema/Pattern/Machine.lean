import EntitySchema.Pattern.Program
/-!
Running programs of patterns.

A program that fails goes on at the alternative that was stored last, with the slots as they were
then. A search that has to go back too often, or that has too many alternatives open, is given up
and finds nothing.
-/

namespace EntitySchema

namespace Pattern

structure Progress where
  address : Nat
  position : Nat
  slots : Slots
  /-- For each atomic expression that has been entered, the number of alternatives before it. -/
  depths : List Nat := []
  deriving Repr

namespace Progress

def slot? (progress : Progress) (slot : Nat) : Option Nat := progress.slots[slot]?.join

def setSlot (progress : Progress) (slot : Nat) (value : Nat) : Progress :=
  { progress with slots := progress.slots.setIfInBounds slot (some value) }

def clearSlot (progress : Progress) (slot : Nat) : Progress :=
  { progress with slots := progress.slots.setIfInBounds slot none }

def count (progress : Progress) (slot : Nat) : Nat := (progress.slot? slot).getD 0

def onward (progress : Progress) : Progress := { progress with address := progress.address + 1 }

def goTo (progress : Progress) (address : Nat) : Progress := { progress with address }

def passing (progress : Progress) (position : Nat) : Progress := { progress.onward with position }

/-- Takes over the groups of an automaton, which start with its second pair of slots. -/
def takeGroups (progress : Progress) (found : Slots) (firstGroup groupCount : Nat) : Progress :=
  (List.range (2 * groupCount)).foldl
    (fun progress offset =>
      match found[offset + 2]?.join with
      | some position => progress.setSlot (2 * firstGroup + offset) position
      | none => progress.clearSlot (2 * firstGroup + offset))
    progress

end Progress

structure Alternatives where
  stored : List Progress := []
  count : Nat := 0

namespace Alternatives

def push (alternatives : Alternatives) (progress : Progress) : Alternatives :=
  { stored := progress :: alternatives.stored, count := alternatives.count + 1 }

def cutTo (alternatives : Alternatives) (count : Nat) : Alternatives :=
  { stored := alternatives.stored.drop (alternatives.count - count)
    count := min count alternatives.count }

/-- Gives up alternatives up to and with the last one at an address. -/
def cutAt (address : Nat) : List Progress → Nat → Alternatives
  | [], _ => {}
  | progress :: rest, count =>
    if progress.address = address then { stored := rest, count := count - 1 }
    else cutAt address rest (count - 1)

end Alternatives

inductive Step where
  | finished
  | failed (alternatives : Alternatives)
  | next (progress : Progress) (alternatives : Alternatives)

def backFrom? (subject : Subject) : Nat → Nat → Option Nat
  | 0, position => some position
  | count + 1, position =>
    match subject.previous? position with
    | some previous => backFrom? subject count previous
    | none => none

def nextRound (progress : Progress) (alternatives : Alternatives) (greedy mayLeave : Bool)
    (exit : Nat) : Step :=
  if !mayLeave then .next progress.onward alternatives
  else if greedy then .next progress.onward (alternatives.push (progress.goTo exit))
  else .next (progress.goTo exit) (alternatives.push progress.onward)

def execute (subject : Subject) (progress : Progress) (alternatives : Alternatives) :
    Instruction → Step
  | .finish => .finished
  | .any =>
    match subject.next? progress.position with
    | some next => .next (progress.passing next) alternatives
    | none => .failed alternatives
  | .anyButNewline =>
    match subject.next? progress.position with
    | some next =>
      if subject.byte? progress.position == some Subject.newline then .failed alternatives
      else .next (progress.passing next) alternatives
    | none => .failed alternatives
  | .literal bytes =>
    if subject.startsWith progress.position bytes then
      .next (progress.passing (progress.position + bytes.length)) alternatives
    else .failed alternatives
  | .check condition =>
    if subject.holds progress.position condition then .next progress.onward alternatives
    else .failed alternatives
  | .split first second =>
    .next (progress.goTo first) (alternatives.push (progress.goTo second))
  | .jump target => .next (progress.goTo target) alternatives
  | .store slot => .next (progress.onward.setSlot slot progress.position) alternatives
  | .startCount slot => .next (progress.onward.setSlot slot 0) alternatives
  | .restore slot => .next (progress.passing (progress.count slot)) alternatives
  | .countRound least most greedy exit counter =>
    let rounds := progress.count counter
    if most = some rounds then .next (progress.goTo exit) alternatives
    else nextRound (progress.setSlot counter (rounds + 1)) alternatives greedy (least ≤ rounds) exit
  | .countProgress least greedy exit counter mark =>
    let rounds := progress.count counter
    if 0 < rounds ∧ progress.slot? mark = some progress.position then .failed alternatives
    else
      let counted := progress.setSlot counter (rounds + 1)
      if least ≤ rounds then
        nextRound (counted.setSlot mark progress.position) alternatives greedy true exit
      else .next counted.onward alternatives
  | .goBack count =>
    match backFrom? subject count progress.position with
    | some position => .next (progress.passing position) alternatives
    | none => .failed alternatives
  | .failLook =>
    .failed (Alternatives.cutAt (progress.address + 1) alternatives.stored alternatives.count)
  | .backreference group =>
    match progress.slot? (2 * group), progress.slot? (2 * group + 1) with
    | some first, some last =>
      if first ≤ last ∧ subject.repeats (last - first) first progress.position then
        .next (progress.passing (progress.position + (last - first))) alternatives
      else .failed alternatives
    | _, _ => .failed alternatives
  | .groupMatched group =>
    if (progress.slot? (2 * group)).isSome then .next progress.onward alternatives
    else .failed alternatives
  | .beginAtomic =>
    .next { progress.onward with depths := alternatives.count :: progress.depths } alternatives
  | .endAtomic =>
    .next { progress.onward with depths := progress.depths.drop 1 }
      (alternatives.cutTo (progress.depths.headD 0))
  | .searchStart =>
    if progress.position = 0 then .next progress.onward alternatives else .failed alternatives
  | .run automaton firstGroup groupCount =>
    let slotCount := if groupCount = 0 then 0 else 2 * (groupCount + 1)
    match automaton.matchAt? subject progress.position slotCount with
    | some found =>
      .next ((progress.takeGroups found.slots firstGroup groupCount).passing found.position)
        alternatives
    | none => .failed alternatives

def maxAlternatives : Nat := 1000000

def maxReturns : Nat := 1000000

namespace Program

def run (program : Program) (subject : Subject) :
    Nat → Nat → Progress → Alternatives → Bool
  | 0, _, _, _ => false
  | fuel + 1, returns, progress, alternatives =>
    match program.instructions[progress.address]? with
    | none => false
    | some instruction =>
      match execute subject progress alternatives instruction with
      | .finished => true
      | .next progress alternatives =>
        if alternatives.count > maxAlternatives then false
        else run program subject fuel returns progress alternatives
      | .failed alternatives =>
        match alternatives.stored with
        | [] => false
        | progress :: rest =>
          if returns < maxReturns then
            run program subject fuel (returns + 1) progress
              { stored := rest, count := alternatives.count - 1 }
          else false

/-- More instructions than any search comes to. -/
def maxInstructions : Nat := 1 <<< 48

def isFoundIn (program : Program) (subject : Subject) : Bool :=
  program.run subject maxInstructions 0
    { address := 0, position := 0, slots := Array.replicate program.slotCount none } {}

end Program

end Pattern

end EntitySchema
