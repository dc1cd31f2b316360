import EntitySchema.Value.Basic
import EntitySchema.Value.Quoted
/-!
Writing a value as a literal expression, on one line or over indented lines.

Everything can be laid out, but not everything means something in source text: a number that is
not finite has no literal, and a blank fragment of code is no expression. `fault?` finds the first
such part in the order in which the parts are written.
-/

namespace EntitySchema

namespace Value

inductive WriteFault where
  | nonFinite (number : Number)
  | emptySource
  deriving DecidableEq, Repr

def WriteFault.reason : WriteFault → String
  | .nonFinite value => "non-finite number " ++ value.text ++ " has no literal form"
  | .emptySource => "empty source fragment"

def WriteFault.message (fault : WriteFault) : String := "unsupported value: " ++ fault.reason

mutual

def fault? : Value → Option WriteFault
  | .number value => if value.isFinite then none else some (.nonFinite value)
  | .source code => if isBlankText code then some .emptySource else none
  | .list items => itemsFault? items
  | .record fields => fieldsFault? fields
  | _ => none

def itemsFault? : List Value → Option WriteFault
  | [] => none
  | item :: rest => (fault? item).or (itemsFault? rest)

def fieldsFault? : List (String × Value) → Option WriteFault
  | [] => none
  | (_, value) :: rest => (fault? value).or (fieldsFault? rest)

end

/-! ## One line

Each part is written in front of the text that follows it, so that however deep it lies, its
characters are put down once. -/

mutual

/-- A value on one line, with `after` behind it. -/
def flatBefore : Value → List Char → List Char
  | .undefined, after => "undefined".toList ++ after
  | .null, after => "null".toList ++ after
  | .bool true, after => "true".toList ++ after
  | .bool false, after => "false".toList ++ after
  | .number value, after => value.chars ++ after
  | .text content, after => quotedChars content.toList ++ after
  | .source code, after => code.toList ++ after
  | .list items, after => '[' :: flatItemsBefore items (']' :: after)
  | .record [], after => '{' :: '}' :: after
  | .record (field :: rest), after =>
    '{' :: ' ' :: flatFieldsBefore (field :: rest) (' ' :: '}' :: after)

def flatItemsBefore : List Value → List Char → List Char
  | [], after => after
  | [item], after => flatBefore item after
  | item :: next :: rest, after =>
    flatBefore item (',' :: ' ' :: flatItemsBefore (next :: rest) after)

def flatFieldsBefore : List (String × Value) → List Char → List Char
  | [], after => after
  | [(key, value)], after => keyChars key ++ ':' :: ' ' :: flatBefore value after
  | (key, value) :: next :: rest, after =>
    keyChars key ++
      ':' :: ' ' :: flatBefore value (',' :: ' ' :: flatFieldsBefore (next :: rest) after)

end

/-! ## Indented lines

A record takes a line for each field. A list takes a line for each item if one of them is
composite, and stays on one line otherwise. -/

def spaces (count : Nat) : List Char := List.replicate count ' '

mutual

def indentedBefore (indent : Nat) : Nat → Value → List Char → List Char
  | depth, .list items, after =>
    if items.any isComposite then
      '[' :: '\n' ::
        indentedItemsBefore indent (depth + 1) items
          ('\n' :: (spaces (indent * depth) ++ ']' :: after))
    else flatBefore (.list items) after
  | _, .record [], after => '{' :: '}' :: after
  | depth, .record (field :: rest), after =>
    '{' :: '\n' ::
      indentedFieldsBefore indent (depth + 1) (field :: rest)
        ('\n' :: (spaces (indent * depth) ++ '}' :: after))
  | _, value, after => flatBefore value after

def indentedItemsBefore (indent : Nat) : Nat → List Value → List Char → List Char
  | _, [], after => after
  | depth, [item], after => spaces (indent * depth) ++ indentedBefore indent depth item after
  | depth, item :: next :: rest, after =>
    spaces (indent * depth) ++
      indentedBefore indent depth item
        (',' :: '\n' :: indentedItemsBefore indent depth (next :: rest) after)

def indentedFieldsBefore (indent : Nat) : Nat → List (String × Value) → List Char → List Char
  | _, [], after => after
  | depth, [(key, value)], after =>
    spaces (indent * depth) ++
      (keyChars key ++ ':' :: ' ' :: indentedBefore indent depth value after)
  | depth, (key, value) :: next :: rest, after =>
    spaces (indent * depth) ++
      (keyChars key ++
        ':' :: ' ' ::
          indentedBefore indent depth value
            (',' :: '\n' :: indentedFieldsBefore indent depth (next :: rest) after))

end

def layout (indent : Nat) (value : Value) : List Char :=
  if indent = 0 then flatBefore value [] else indentedBefore indent 0 value []

def write (indent : Nat) (value : Value) : Except WriteFault String :=
  match fault? value with
  | some fault => .error fault
  | none => .ok (String.ofList (layout indent value))

end Value

end EntitySchema
