import EntitySchema.Pattern.Automaton.Basic
import EntitySchema.Pattern.Automaton.ByteSequence
import Std.Data.HashMap
/-!
The parts of an automaton that read one character of a class.

Read forwards, the sequences of byte ranges of a class form a tree, and equal subtrees share their
states. Read backwards, sequences that end alike share states. States are looked up by a hash in
caches of fixed size, in which a newer entry takes the place of an older one.
-/

namespace EntitySchema

namespace Pattern

namespace ByteTree

/-! ## Hashing -/

def hashStart : UInt64 := 14695981039346656037

def mixIn (hash : UInt64) (value : Nat) : UInt64 :=
  (hash ^^^ UInt64.ofNat value) * 1099511628211

def mixInTransition (hash : UInt64) (transition : Transition) : UInt64 :=
  mixIn (mixIn (mixIn hash transition.first.toNat) transition.last.toNat) transition.next

abbrev Cache (Key : Type) := Std.HashMap Nat (Key × Nat)

def Cache.find? {Key : Type} [DecidableEq Key] (cache : Cache Key) (place : Nat) (key : Key) :
    Option Nat :=
  match cache[place]? with
  | some (stored, number) => if stored = key then some number else none
  | none => none

/-! ## Forwards -/

def forwardCacheSize : Nat := 10000

abbrev ForwardCache := Cache (List Transition)

def forwardPlace (transitions : List Transition) : Nat :=
  (transitions.foldl mixInTransition hashStart).toNat % forwardCacheSize

def stateFor (cache : ForwardCache) (transitions : List Transition) :
    Construction (Nat × ForwardCache) := do
  let place := forwardPlace transitions
  match cache.find? place transitions with
  | some number => return (number, cache)
  | none =>
    let number ← Construction.add (.steps transitions)
    return (number, cache.insert place (transitions, number))

def groupByFirst : List (List ByteRange) → List (ByteRange × List (List ByteRange))
  | [] => []
  | [] :: rest => groupByFirst rest
  | (range :: following) :: rest =>
    match groupByFirst rest with
    | (next, followings) :: groups =>
      if next = range then (range, following :: followings) :: groups
      else (range, [following]) :: (next, followings) :: groups
    | [] => [(range, [following])]

mutual

def forwardState (target : Nat) : Nat → List (List ByteRange) → ForwardCache →
    Construction (Nat × ForwardCache)
  | 0, _, cache => return (target, cache)
  | length + 1, sequences, cache => do
    let (transitions, cache) ← forwardTransitions target length (groupByFirst sequences) cache
    stateFor cache transitions
termination_by length => (length, 0)

def forwardTransitions (target : Nat) (length : Nat) :
    List (ByteRange × List (List ByteRange)) → ForwardCache →
    Construction (List Transition × ForwardCache)
  | [], cache => return ([], cache)
  | (range, followings) :: groups, cache => do
    let (next, cache) ←
      if followings.all List.isEmpty then pure (target, cache)
      else forwardState target length followings cache
    let (transitions, cache) ← forwardTransitions target length groups cache
    return ({ first := range.first, last := range.last, next } :: transitions, cache)
termination_by groups => (length, groups.length + 1)

end

def maxLength : Nat := 4

def forwardFragment (sequences : List (List ByteRange)) : Construction Fragment := do
  let exit ← Construction.addPass
  let (entry, _) ← forwardState exit maxLength sequences {}
  return { entry, exit }

/-! ## Backwards -/

def backwardCacheSize : Nat := 1000

abbrev BackwardCache := Cache (Nat × ByteRange)

def backwardPlace (next : Nat) (range : ByteRange) : Nat :=
  (mixIn (mixIn (mixIn hashStart next) range.first.toNat) range.last.toNat).toNat %
    backwardCacheSize

def backwardState : List ByteRange → Nat → BackwardCache → Construction (Nat × BackwardCache)
  | [], next, cache => return (next, cache)
  | range :: rest, next, cache => do
    let place := backwardPlace next range
    match cache.find? place (next, range) with
    | some number => backwardState rest number cache
    | none =>
      let number ← Construction.add (.step { first := range.first, last := range.last, next })
      backwardState rest number (cache.insert place ((next, range), number))

def backwardStates (choice exit : Nat) : List (List ByteRange) → BackwardCache →
    Construction Unit
  | [], _ => return
  | sequence :: rest, cache => do
    let (number, cache) ← backwardState sequence exit cache
    Construction.connect choice number
    backwardStates choice exit rest cache

def backwardFragment (sequences : List (List ByteRange)) : Construction Fragment := do
  let choice ← Construction.addChoice false
  let exit ← Construction.addPass
  backwardStates choice exit sequences {}
  return { entry := choice, exit }

end ByteTree

end Pattern

end EntitySchema
