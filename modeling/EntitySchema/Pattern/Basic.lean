import EntitySchema.Pattern.Machine
/-!
Patterns that texts are searched for.

A pattern that is regular as a whole is matched by an automaton, and any other one by a program.
-/

namespace EntitySchema

inductive Pattern where
  | regular (automaton : Pattern.Automaton)
  | backtracking (program : Pattern.Program)

namespace Pattern

def ofText? (text : String) : Option Pattern := do
  let (expression, groups) ← readExpression? text.toList
  if expression.isSimple then return .regular (← automatonOf? (expression.source .whole))
  else return .backtracking (← Program.ofExpression? expression groups)

def isFoundIn (pattern : Pattern) (text : String) : Bool :=
  match pattern with
  | .regular automaton => automaton.isFoundIn (Subject.ofText text)
  | .backtracking program => program.isFoundIn (Subject.ofText text)

end Pattern

end EntitySchema
