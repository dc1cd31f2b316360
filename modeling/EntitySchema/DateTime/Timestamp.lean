import EntitySchema.DateTime.Calendar
import EntitySchema.Number.Decimal
import EntitySchema.Text.DecimalDigit
/-!
Texts that stand for dates and times.

A timestamp is accepted in the profile of RFC 3339 or in a larger part of ISO 8601, also with a
space in place of the `T`. Plain dates and times only have to have the right shape.
-/

namespace EntitySchema

namespace Timestamp

/-! ## Parts -/

def takeDigits? (count : Nat) (text : List Char) : Option (Nat × List Char) :=
  let digits := text.take count
  if digits.length = count && digits.all isDigit then
    some (valueOfDigits digits, text.drop count)
  else none

def takePositive? (count : Nat) (text : List Char) : Option (Nat × List Char) :=
  (takeDigits? count text).filter fun parsed => parsed.1 > 0

def dropCharacter? (wanted : Char) : List Char → Option (List Char)
  | first :: rest => if first = wanted then some rest else none
  | [] => none

/-- A hyphen, colon or other separator that is there exactly if `present`. -/
def dropSeparator? (present : Bool) (separator : Char) (text : List Char) : Option (List Char) :=
  if present then dropCharacter? separator text else some text

/-- A sign; true for minus. -/
def takeSign? : List Char → Option (Bool × List Char)
  | '-' :: rest => some (true, rest)
  | '+' :: rest => some (false, rest)
  | _ => none

/-! ## RFC 3339 -/

def dropSecondFraction? : List Char → Option (List Char)
  | '.' :: rest =>
    let digits := rest.takeWhile isDigit
    if digits.isEmpty then none else some (rest.dropWhile isDigit)
  | text => some text

/-- The offset from UTC in minutes that makes up the rest of the text. -/
def readOffset? : List Char → Option Int
  | ['Z'] | ['z'] => some 0
  | text => do
    let (negative, text) ← takeSign? text
    let (hour, text) ← takeDigits? 2 text
    let text ← dropCharacter? ':' text
    let (minute, text) ← takeDigits? 2 text
    if hour ≤ 23 && minute ≤ 59 && text.isEmpty then
      let minutes : Int := hour * 60 + minute
      some (if negative then -minutes else minutes)
    else none

/-- Date, one byte of any kind, time and offset. The second 60 may only end a month. -/
def isRfc3339 (text : List Char) : Bool :=
  let accepted : Option Bool := do
    let (year, text) ← takeDigits? 4 text
    let text ← dropCharacter? '-' text
    let (month, text) ← takeDigits? 2 text
    let text ← dropCharacter? '-' text
    let (day, text) ← takeDigits? 2 text
    let separator ← text.head?
    let text := text.drop 1
    let (hour, text) ← takeDigits? 2 text
    let text ← dropCharacter? ':' text
    let (minute, text) ← takeDigits? 2 text
    let text ← dropCharacter? ':' text
    let (second, text) ← takeDigits? 2 text
    let text ← dropSecondFraction? text
    let offset ← readOffset? text
    let civil : Moment := { year, month, day, minuteOfDay := hour * 60 + minute }
    let utc := { civil with minuteOfDay := civil.minuteOfDay - offset }.normalize
    return separator.toNat < 0x80 && (CalendarDate.monthDay year month day).isValid &&
      hour ≤ 23 && minute ≤ 59 && second ≤ 60 && (second < 60 || utc.isLastMinuteOfMonth)
  accepted.getD false

/-! ## ISO 8601 -/

/-- A year of four digits, or of six after a sign. -/
def takeYear? (text : List Char) : Option (Int × List Char) :=
  match takeSign? text with
  | some (negative, unsigned) =>
    (takeDigits? 6 unsigned).map fun (year, rest) =>
      (if negative then -(year : Int) else year, rest)
  | none => (takeDigits? 4 text).map fun (year, rest) => ((year : Int), rest)

def takeMonthDay? (extended : Bool) (year : Int) (text : List Char) :
    Option (CalendarDate × List Char) := do
  let (month, text) ← takePositive? 2 text
  if month > 12 then none
  let text ← dropSeparator? extended '-' text
  let (day, text) ← takePositive? 2 text
  return (.monthDay year month day, text)

def takeOrdinal? (year : Int) (text : List Char) : Option (CalendarDate × List Char) :=
  (takePositive? 3 text).map fun (day, rest) => (.ordinal year day, rest)

def takeWeek? (extended : Bool) (year : Int) (text : List Char) :
    Option (CalendarDate × List Char) := do
  let text ← dropCharacter? 'W' text
  let (week, text) ← takePositive? 2 text
  let text ← dropSeparator? extended '-' text
  let (weekday, text) ← takePositive? 1 text
  if weekday > 7 then none
  return (.week year week weekday, text)

/-- A date, and whether it is in the extended format, that is, with hyphens. The three ways to
name a day are tried in turn. -/
def takeDate? (text : List Char) : Option (Bool × CalendarDate × List Char) := do
  let (year, text) ← takeYear? text
  let (extended, text) :=
    match text with
    | '-' :: rest => (true, rest)
    | basic => (false, basic)
  let (date, text) ←
    ((takeMonthDay? extended year text).or (takeOrdinal? year text)).or
      (takeWeek? extended year text)
  return (extended, date, text)

def unitsOf : Binary64 → Nat
  | .finite _ rank => Binary64.unitsOfRank rank
  | _ => 0

/-- A fraction as it accumulates digit by digit in double arithmetic: each digit is divided by its
power of ten and added. -/
def accumulateFraction (units divisor : Nat) : List Char → Nat
  | [] => units
  | digit :: rest =>
    let share := unitsOf (Binary64.ofRatio false (digitValue digit) divisor)
    accumulateFraction (unitsOf (Binary64.ofUnits false (units + share) 1)) (divisor * 10) rest

/-- A component of the time: two digits, and the fraction behind them in units, if it has one. -/
def takeComponent? (text : List Char) : Option ((Nat × Option Nat) × List Char) := do
  let (value, rest) ← takeDigits? 2 text
  match rest with
  | mark :: afterMark =>
    if mark = '.' ∨ mark = ',' then
      let digits := afterMark.takeWhile isDigit
      if digits.isEmpty then none
      else
        some ((value, some (accumulateFraction 0 10 digits)), afterMark.dropWhile isDigit)
    else some ((value, none), rest)
  | [] => some ((value, none), [])

def isProperFraction (units : Nat) : Bool := units < Binary64.unitsPerOne

/-- Whether a fraction of a second stays below a second when it is rounded to nanoseconds. -/
def roundsToNanoseconds (units : Nat) : Bool :=
  let nanoseconds := Binary64.ofRatio false (units * 1000000000) Binary64.unitsPerOne
  2 * unitsOf nanoseconds < 1999999999 * Binary64.unitsPerOne

def takeSecond? (extended : Bool) (text : List Char) : Option (List Char) :=
  match takeComponent? text with
  | some ((second, none), rest) => if second ≤ 60 then some rest else none
  | some ((second, some fraction), rest) =>
    if second ≤ 60 && roundsToNanoseconds fraction then some rest else none
  | none => if extended then none else some text

/-- The time after its `T`. The last component that is present may have a fraction, which ends
the time. -/
def takeTime? (extended : Bool) (text : List Char) : Option (List Char) := do
  let ((hour, fraction), text) ← takeComponent? text
  if hour > 23 then none
  if let some fraction := fraction then
    if isProperFraction fraction then return text else none
  let text ←
    match text with
    | ':' :: rest => if extended then some rest else none
    | other => some other
  match takeComponent? text with
  | none => if extended then none else some text
  | some ((minute, fraction), text) =>
    if minute > 59 then none
    else if fraction.isSome then some text
    else if extended then
      match text with
      | ':' :: rest => takeSecond? extended rest
      | other => some other
    else takeSecond? extended text

def takeOffset? (extended : Bool) (text : List Char) : Option (List Char) :=
  match text with
  | 'Z' :: rest => some rest
  | _ => do
    let (_, text) ← takeSign? text
    let (hour, text) ← takeDigits? 2 text
    if hour > 25 then none
    let text :=
      match text with
      | ':' :: rest => if extended then rest else text
      | other => other
    match takeDigits? 2 text with
    | some (minute, rest) => if minute ≤ 59 then some rest else none
    | none => some text

def isIso8601 (text : List Char) : Bool :=
  match takeDate? text with
  | none => false
  | some (extended, date, rest) =>
    let unread :=
      match (dropCharacter? 'T' rest).bind (takeTime? extended) with
      | none => rest
      | some afterTime => (takeOffset? extended afterTime).getD afterTime
    unread.isEmpty && date.isValid

def isAbsolute (text : List Char) : Bool := isRfc3339 text || isIso8601 text

/-- The text with `T` in place of its first space. -/
def joinAtSpace? (text : List Char) : Option (List Char) :=
  match text.dropWhile fun character => character != ' ' with
  | _ :: time => some (text.takeWhile (fun character => character != ' ') ++ 'T' :: time)
  | [] => none

end Timestamp

def isTimestamp (text : String) : Bool :=
  Timestamp.isAbsolute text.toList ||
    match Timestamp.joinAtSpace? text.toList with
    | some joined => Timestamp.isAbsolute joined
    | none => false

example :
    ["2024-02-29T23:59:60Z", "2024-W01-1", "20240501T1030", "2024-05-01 10:30"].all isTimestamp =
      true := by
  decide +kernel
example : ["2023-02-29", "2024-05-01T10", "24-05-01"].any isTimestamp = false := by decide +kernel

/-! ## Plain dates and times -/

/-- Decimal digits of any script, as many as given, and then the rest. -/
def dropDecimalDigits? : Nat → List Char → Option (List Char)
  | 0, text => some text
  | _ + 1, [] => none
  | count + 1, first :: rest =>
    if isDecimalDigit first then dropDecimalDigits? count rest else none

def isPlainDate (text : String) : Bool :=
  let rest : Option (List Char) := do
    let text ← dropDecimalDigits? 4 text.toList
    let text ← Timestamp.dropCharacter? '-' text
    let text ← dropDecimalDigits? 2 text
    let text ← Timestamp.dropCharacter? '-' text
    dropDecimalDigits? 2 text
  rest == some []

def isPlainTimeEnd (text : List Char) : Bool :=
  match text with
  | [] => true
  | ':' :: seconds =>
    match dropDecimalDigits? 2 seconds with
    | some [] => true
    | some ('.' :: fraction) => !fraction.isEmpty && fraction.all isDecimalDigit
    | _ => false
  | _ => false

def isPlainTime (text : String) : Bool :=
  let rest : Option (List Char) := do
    let text ← dropDecimalDigits? 2 text.toList
    let text ← Timestamp.dropCharacter? ':' text
    dropDecimalDigits? 2 text
  match rest with
  | some rest => isPlainTimeEnd rest
  | none => false

example : isPlainDate "2024-13-99" = true := by decide +kernel
example : ["25:61", "10:30:00.5", "10:30.5"].map isPlainTime = [true, true, false] := by
  decide +kernel

end EntitySchema
