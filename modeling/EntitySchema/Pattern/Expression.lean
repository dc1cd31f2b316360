import EntitySchema.Number.Decimal
import EntitySchema.Pattern.Subject
/-!
Expressions of patterns.

An expression is either regular or needs backtracking. A regular one has a source text in the
dialect of regular expressions.
-/

namespace EntitySchema

namespace Pattern

inductive Expression where
  | empty
  | any (newline : Bool)
  | literal (character : Char) (ignoreCase : Bool)
  /-- One character that a piece of a regular expression describes. -/
  | excerpt (text : List Char) (ignoreCase : Bool)
  | assertion (condition : Assertion)
  | sequence (parts : List Expression)
  | choice (alternatives : List Expression)
  | group (number : Nat) (body : Expression)
  | repetition (least : Nat) (most : Option Nat) (greedy : Bool) (body : Expression)
  /-- Matches as its body, but only in the body's preferred way. -/
  | atomic (body : Expression)
  | lookAround (behind negated : Bool) (body : Expression)
  | backreference (number : Nat)
  | groupMatched (number : Nat)
  /-- The match counts from here. -/
  | matchStart
  /-- Where the search began. -/
  | searchStart
  | conditional (condition whenMatched otherwise : Expression)
  deriving Repr, Inhabited

namespace Expression

def isEmpty : Expression → Bool
  | .empty => true
  | _ => false

def isRepeatable : Expression → Bool
  | .lookAround .. | .empty | .assertion _ => false
  | _ => true

/-! ## Width

The least number of characters that an expression matches, and whether it always matches that
many. -/

structure Width where
  least : Nat
  fixed : Bool
  deriving DecidableEq, Repr

mutual

def width : Expression → Width
  | .empty | .assertion _ | .lookAround .. | .groupMatched _ | .matchStart | .searchStart =>
    ⟨0, true⟩
  | .any _ | .literal .. | .excerpt .. => ⟨1, true⟩
  | .sequence parts => sequenceWidth parts
  | .choice alternatives => choiceWidth alternatives
  | .group _ body | .atomic body => width body
  | .backreference _ => ⟨0, false⟩
  | .repetition least most _ body =>
    let inner := width body
    ⟨inner.least * least, inner.fixed && most == some least⟩
  | .conditional condition whenMatched otherwise =>
    let first := width condition
    let second := width whenMatched
    let third := width otherwise
    ⟨first.least + min second.least third.least,
      first.fixed && second.fixed && third.fixed && first.least + second.least == third.least⟩

def sequenceWidth : List Expression → Width
  | [] => ⟨0, true⟩
  | part :: rest =>
    let first := width part
    let others := sequenceWidth rest
    ⟨first.least + others.least, first.fixed && others.fixed⟩

def choiceWidth : List Expression → Width
  | [] => ⟨0, true⟩
  | [alternative] => width alternative
  | alternative :: rest =>
    let first := width alternative
    let others := choiceWidth rest
    ⟨min first.least others.least,
      first.fixed && others.fixed && first.least == others.least⟩

end

/-! ## Regular expressions -/

def isWordCondition : Assertion → Bool
  | .wordBoundary | .notWordBoundary | .wordStart | .wordEnd => true
  | _ => false

mutual

def needsBacktracking : Expression → Bool
  | .empty | .any _ | .literal .. | .excerpt .. => false
  | .assertion condition => isWordCondition condition
  | .sequence parts => anyNeedsBacktracking parts
  | .choice alternatives => anyNeedsBacktracking alternatives
  | .group _ body => needsBacktracking body
  | .repetition _ _ _ body => needsBacktracking body
  | .atomic _ | .lookAround .. | .backreference _ | .groupMatched _ | .matchStart | .searchStart
  | .conditional .. => true

def anyNeedsBacktracking : List Expression → Bool
  | [] => false
  | part :: rest => needsBacktracking part || anyNeedsBacktracking rest

end

def isSimple (expression : Expression) : Bool := !expression.needsBacktracking

mutual

def literalText? : Expression → Option (List Char)
  | .literal character false => some [character]
  | .sequence parts => literalTexts? parts
  | _ => none

def literalTexts? : List Expression → Option (List Char)
  | [] => some []
  | part :: rest => do return (← literalText? part) ++ (← literalTexts? rest)

end

mutual

def groupNumbers : Expression → List Nat
  | .sequence parts => groupNumbersOfAll parts
  | .choice alternatives => groupNumbersOfAll alternatives
  | .group number body => number :: groupNumbers body
  | .repetition _ _ _ body | .atomic body | .lookAround _ _ body => groupNumbers body
  | .conditional condition whenMatched otherwise =>
    groupNumbers condition ++ groupNumbers whenMatched ++ groupNumbers otherwise
  | _ => []

def groupNumbersOfAll : List Expression → List Nat
  | [] => []
  | part :: rest => groupNumbers part ++ groupNumbersOfAll rest

end

/-! ## Source text -/

def signs : List Char :=
  ['\\', '.', '+', '*', '?', '(', ')', '|', '[', ']', '{', '}', '^', '$', '#', '&', '-', '~']

def quote (character : Char) : List Char :=
  if character ∈ signs then ['\\', character] else [character]

def enclosed (opening : String) (text : List Char) : List Char := opening.toList ++ text ++ [')']

def enclosedIf (condition : Bool) (opening : String) (text : List Char) : List Char :=
  if condition then enclosed opening text else text

def boundsText (least : Nat) (most : Option Nat) : List Char :=
  match least, most with
  | 0, some 1 => ['?']
  | 0, none => ['*']
  | 1, none => ['+']
  | least, none => ['{'] ++ decimalDigits least ++ [',', '}']
  | least, some most =>
    if least = most then ['{'] ++ decimalDigits least ++ ['}']
    else ['{'] ++ decimalDigits least ++ [','] ++ decimalDigits most ++ ['}']

def assertionText : Assertion → List Char
  | .startOfText => ['^']
  | .endOfText => ['$']
  | .startOfLine => enclosed "(?m:" ['^']
  | .endOfLine => enclosed "(?m:" ['$']
  | _ => []

/-- How closely the place of an expression binds: an alternative, a part of a sequence, or the body
of a repetition. -/
inductive Place where
  | whole
  | alternative
  | part
  | body
  deriving DecidableEq, Repr

mutual

def source (place : Place) : Expression → List Char
  | .any newline => enclosedIf newline "(?s:" ['.']
  | .literal character ignoreCase => enclosedIf ignoreCase "(?i:" (quote character)
  | .excerpt text ignoreCase => enclosedIf ignoreCase "(?i:" text
  | .assertion condition => assertionText condition
  | .sequence parts => enclosedIf (place == .part || place == .body) "(?:" (sourceOfParts parts)
  | .choice alternatives => enclosedIf (place != .whole) "(?:" (sourceOfAlternatives alternatives)
  | .group _ body => enclosed "(" (source .whole body)
  | .repetition least most greedy body =>
    enclosedIf (place == .body) "(?:"
      (source .body body ++ boundsText least most ++ if greedy then [] else ['?'])
  | _ => []

def sourceOfParts : List Expression → List Char
  | [] => []
  | part :: rest => source .part part ++ sourceOfParts rest

def sourceOfAlternatives : List Expression → List Char
  | [] => []
  | [alternative] => source .alternative alternative
  | alternative :: rest => source .alternative alternative ++ '|' :: sourceOfAlternatives rest

end

end Expression

end Pattern

end EntitySchema
