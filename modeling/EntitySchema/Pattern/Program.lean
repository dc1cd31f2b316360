import EntitySchema.Pattern.Automaton.Search
import EntitySchema.Pattern.Reader
/-!
Programs that match patterns by backtracking.

The regular parts of an expression are left to automata, where that cannot change which match is
found: a part that is followed by something that needs backtracking is only left to an automaton if
all its matches have one length.
-/

namespace EntitySchema

namespace Pattern

inductive Instruction where
  | finish
  | any
  | anyButNewline
  | literal (bytes : List UInt8)
  | check (condition : Assertion)
  /-- Goes on at the first address, and at the second one if that fails. -/
  | split (first second : Nat)
  | jump (target : Nat)
  /-- Stores the position. -/
  | store (slot : Nat)
  /-- Starts to count. -/
  | startCount (slot : Nat)
  /-- Goes back to a position that was stored. -/
  | restore (slot : Nat)
  /-- Counts a round of a loop whose body follows, up to the bound, and then goes to the exit. -/
  | countRound (least : Nat) (most : Option Nat) (greedy : Bool) (exit counter : Nat)
  /-- Counts a round of a loop without a bound. A round that takes no text fails. -/
  | countProgress (least : Nat) (greedy : Bool) (exit counter progress : Nat)
  | goBack (count : Nat)
  /-- Fails, and gives up all alternatives since the address that follows was stored as one. -/
  | failLook
  | backreference (group : Nat)
  | groupMatched (group : Nat)
  | beginAtomic
  | endAtomic
  | searchStart
  /-- Matches by an automaton with groups of its own, which are counted from the first one. -/
  | run (automaton : Automaton) (firstGroup groupCount : Nat)

structure Program where
  instructions : Array Instruction
  slotCount : Nat

/-- Assembling instructions, with the number of slots that are in use. -/
abbrev Assembly := StateT Nat Option

def newSlot : Assembly Nat := do
  modify (· + 1)
  return (← get) - 1

def bytesOfText (text : List Char) : List UInt8 := text.flatMap String.utf8EncodeChar

def automatonOf? (source : List Char) : Option Automaton := do
  Automaton.ofForm? (← Regular.read? source)

def delegate (expressions : List Expression) : Assembly (List Instruction) := do
  if expressions.isEmpty then return []
  match Expression.literalTexts? expressions with
  | some text => return [.literal (bytesOfText text)]
  | none =>
    let source := expressions.flatMap (Expression.source .alternative)
    let groups := Expression.groupNumbersOfAll expressions
    return [.run (← liftM (automatonOf? source)) (groups.headD 0) groups.length]

def isFixedSimple (expression : Expression) : Bool :=
  expression.width.fixed && expression.isSimple

/-- How many of the parts are left to automata at the start and at the end of a sequence. -/
def delegatedParts (isFollowed : Bool) (parts : List Expression) : Nat × Nat :=
  let leading := (parts.takeWhile isFixedSimple).length
  let suits := if isFollowed then isFixedSimple else Expression.isSimple
  (leading, ((parts.drop leading).reverse.takeWhile suits).length)

def chooseOver (base length : Nat) (greedy : Bool) : Instruction :=
  if greedy then .split (base + 1) (base + 1 + length) else .split (base + 1 + length) (base + 1)

def lookBack (behind : Bool) (width : Expression.Width) : List Instruction :=
  if behind then [.goBack width.least] else []

def completeLook (base : Nat) (negated : Bool) (body : List Instruction) :
    Assembly (List Instruction) :=
  if negated then return .split (base + 1) (base + 2 + body.length) :: body ++ [.failLook]
  else do
    let slot ← newSlot
    return .store slot :: body ++ [.restore slot]

mutual

/-- The instructions for an expression that start at an address. It matters whether something
follows that needs backtracking. -/
def assemble (base : Nat) (isFollowed : Bool) : Expression → Assembly (List Instruction)
  | .empty => return []
  | .any newline => return [if newline then .any else .anyButNewline]
  | .literal character ignoreCase => delegate [.literal character ignoreCase]
  | .excerpt text ignoreCase => delegate [.excerpt text ignoreCase]
  | .assertion condition => return [.check condition]
  | .sequence parts =>
    if !isFollowed && !Expression.anyNeedsBacktracking parts then delegate [.sequence parts]
    else do
      let (leading, trailing) := delegatedParts isFollowed parts
      let rest := parts.length - leading - trailing
      let before ← delegate (parts.take leading)
      let middle ← assembleParts (base + before.length) leading rest parts
      let after ← delegate (parts.drop (leading + rest))
      return before ++ middle ++ after
  | .choice alternatives =>
    if !isFollowed && !Expression.anyNeedsBacktracking alternatives then
      delegate [.choice alternatives]
    else assembleAlternatives base isFollowed alternatives
  | .group number body =>
    if !isFollowed && body.isSimple then delegate [.group number body]
    else do
      let inner ← assemble (base + 1) isFollowed body
      return .store (2 * number) :: inner ++ [.store (2 * number + 1)]
  | .repetition least most greedy body =>
    if !isFollowed && body.isSimple then delegate [.repetition least most greedy body]
    else if least = 0 ∧ most = some 1 then do
      let inner ← assemble (base + 1) isFollowed body
      return chooseOver base inner.length greedy :: inner
    else
      let isFollowed := isFollowed || body.needsBacktracking
      if most = none ∧ body.width.least = 0 then do
        let counter ← newSlot
        let progress ← newSlot
        let inner ← assemble (base + 2) isFollowed body
        let exit := base + 3 + inner.length
        return .startCount counter :: .countProgress least greedy exit counter progress :: inner ++
          [.jump (base + 1)]
      else if least = 0 ∧ most = none then do
        let inner ← assemble (base + 1) isFollowed body
        return chooseOver base (inner.length + 1) greedy :: inner ++ [.jump base]
      else if least = 1 ∧ most = none then do
        let inner ← assemble base isFollowed body
        let exit := base + inner.length + 1
        return inner ++ [if greedy then .split base exit else .split exit base]
      else do
        let counter ← newSlot
        let inner ← assemble (base + 2) isFollowed body
        let exit := base + 3 + inner.length
        return .startCount counter :: .countRound least most greedy exit counter :: inner ++
          [.jump (base + 1)]
  | .atomic body => do
    let inner ← assemble (base + 1) false body
    return .beginAtomic :: inner ++ [.endAtomic]
  | .lookAround true negated (.choice alternatives) => do
    let width := Expression.choiceWidth alternatives
    if width.fixed then
      let inner ← assemble (base + 2) false (.choice alternatives)
      completeLook base negated (lookBack true width ++ inner)
    else if negated then assembleRefusals base alternatives
    else assembleSights base alternatives
  | .lookAround behind negated body => do
    if behind && !body.width.fixed then failure
    let back := lookBack behind body.width
    let inner ← assemble (base + 1 + back.length) false body
    completeLook base negated (back ++ inner)
  | .backreference number => return [.backreference number]
  | .groupMatched number => return [.groupMatched number]
  | .matchStart => return [.store 0]
  | .searchStart => return [.searchStart]
  | .conditional condition whenMatched otherwise => do
    let test ← assemble (base + 2) isFollowed condition
    let first ← assemble (base + 3 + test.length) isFollowed whenMatched
    let elseAddress := base + 4 + test.length + first.length
    let second ← assemble elseAddress isFollowed otherwise
    return .beginAtomic :: .split (base + 2) elseAddress :: test ++ .endAtomic :: first ++
      .jump (elseAddress + second.length) :: second

/-- The instructions for parts of a sequence: some are left out at the start, and only so many are
taken. -/
def assembleParts (base : Nat) : Nat → Nat → List Expression → Assembly (List Instruction)
  | _, _, [] => return []
  | leading + 1, count, _ :: rest => assembleParts base leading count rest
  | 0, 0, _ => return []
  | 0, count + 1, part :: rest => do
    let first ← assemble base true part
    let others ← assembleParts (base + first.length) 0 count rest
    return first ++ others

def assembleAlternatives (base : Nat) (isFollowed : Bool) :
    List Expression → Assembly (List Instruction)
  | [] => return []
  | [alternative] => assemble base isFollowed alternative
  | alternative :: rest => do
    let first ← assemble (base + 1) isFollowed alternative
    let next := base + 2 + first.length
    let others ← assembleAlternatives next isFollowed rest
    return .split (base + 1) next :: first ++ .jump (next + others.length) :: others

/-- One of several texts of different widths stands before the position. -/
def assembleSights (base : Nat) : List Expression → Assembly (List Instruction)
  | [] => return []
  | [alternative] => do
    if !alternative.width.fixed then failure
    let inner ← assemble (base + 2) false alternative
    completeLook base false (lookBack true alternative.width ++ inner)
  | alternative :: rest => do
    if !alternative.width.fixed then failure
    let inner ← assemble (base + 3) false alternative
    let first ← completeLook (base + 1) false (lookBack true alternative.width ++ inner)
    let next := base + 2 + first.length
    let others ← assembleSights next rest
    return .split (base + 1) next :: first ++ .jump (next + others.length) :: others

/-- None of several texts of different widths stands before the position. -/
def assembleRefusals (base : Nat) : List Expression → Assembly (List Instruction)
  | [] => return []
  | alternative :: rest => do
    if !alternative.width.fixed then failure
    let inner ← assemble (base + 2) false alternative
    let first ← completeLook base true (lookBack true alternative.width ++ inner)
    let others ← assembleRefusals (base + first.length) rest
    return first ++ others

end

/-- Passes over text until the rest of the program, which comes next, matches. The first two slots
are for the whole match. -/
def searchLoop : List Instruction := [.split 3 1, .any, .jump 0, .store 0]

def Program.ofExpression? (expression : Expression) (groups : Nat) : Option Program := do
  let (body, slotCount) ← (assemble searchLoop.length true expression).run (2 * (groups + 1))
  let instructions : List Instruction := searchLoop ++ body ++ [.store 1, .finish]
  return { instructions := instructions.toArray, slotCount }

end Pattern

end EntitySchema
