import EntitySchema.Text.BinaryProperty
/-!
Texts that are searched, and conditions on their positions.

A subject is a text in UTF-8, and a position counts bytes. All positions that a search comes to
rest at lie between two characters.
-/

namespace EntitySchema

namespace Pattern

inductive Assertion where
  | startOfText
  | endOfText
  | startOfLine
  | endOfLine
  | wordBoundary
  | notWordBoundary
  | wordStart
  | wordEnd
  deriving DecidableEq, Repr

def Assertion.reversed : Assertion → Assertion
  | .startOfText => .endOfText
  | .endOfText => .startOfText
  | .startOfLine => .endOfLine
  | .endOfLine => .startOfLine
  | .wordStart => .wordEnd
  | .wordEnd => .wordStart
  | unchanged => unchanged

structure Subject where
  bytes : ByteArray

namespace Subject

def ofText (text : String) : Subject := { bytes := text.toUTF8 }

def size (subject : Subject) : Nat := subject.bytes.size

def byte? (subject : Subject) (position : Nat) : Option UInt8 := subject.bytes[position]?

def lengthOfCharacter (byte : UInt8) : Nat :=
  if byte < 0x80 then 1 else if byte < 0xE0 then 2 else if byte < 0xF0 then 3 else 4

def next? (subject : Subject) (position : Nat) : Option Nat :=
  (subject.byte? position).map fun byte => position + lengthOfCharacter byte

def isContinuation (byte : UInt8) : Bool := 0x80 ≤ byte && byte < 0xC0

def startOfCharacter (subject : Subject) : Nat → Nat
  | 0 => 0
  | position + 1 =>
    match subject.byte? (position + 1) with
    | some byte => if isContinuation byte then subject.startOfCharacter position else position + 1
    | none => position + 1

def previous? (subject : Subject) : Nat → Option Nat
  | 0 => none
  | position + 1 => some (subject.startOfCharacter position)

def lowBits (subject : Subject) (position : Nat) : Nat :=
  (subject.byte? position).elim 0 fun byte => byte.toNat % 0x40

def code? (subject : Subject) (position : Nat) : Option Nat :=
  (subject.byte? position).map fun byte =>
    let rest (place : Nat) : Nat := subject.lowBits (position + place)
    match lengthOfCharacter byte with
    | 1 => byte.toNat
    | 2 => byte.toNat % 0x20 * 0x40 + rest 1
    | 3 => byte.toNat % 0x10 * 0x1000 + rest 1 * 0x40 + rest 2
    | _ => byte.toNat % 0x08 * 0x40000 + rest 1 * 0x1000 + rest 2 * 0x40 + rest 3

def isWordAt (subject : Subject) (position : Nat) : Bool :=
  (subject.code? position).elim false wordCharacterRanges.containsCode

def isWordBefore (subject : Subject) (position : Nat) : Bool :=
  (subject.previous? position).elim false subject.isWordAt

def newline : UInt8 := 0x0A

def holds (subject : Subject) (position : Nat) : Assertion → Bool
  | .startOfText => position == 0
  | .endOfText => position == subject.size
  | .startOfLine => position == 0 || subject.byte? (position - 1) == some newline
  | .endOfLine => position == subject.size || subject.byte? position == some newline
  | .wordBoundary => subject.isWordBefore position != subject.isWordAt position
  | .notWordBoundary => subject.isWordBefore position == subject.isWordAt position
  | .wordStart => !subject.isWordBefore position && subject.isWordAt position
  | .wordEnd => subject.isWordBefore position && !subject.isWordAt position

def startsWith (subject : Subject) : Nat → List UInt8 → Bool
  | _, [] => true
  | position, byte :: rest =>
    subject.byte? position == some byte && subject.startsWith (position + 1) rest

def repeats (subject : Subject) : Nat → Nat → Nat → Bool
  | 0, _, _ => true
  | count + 1, earlier, position =>
    (match subject.byte? position with
      | some byte => subject.byte? earlier == some byte
      | none => false) &&
      subject.repeats count (earlier + 1) (position + 1)

end Subject

end Pattern

end EntitySchema
