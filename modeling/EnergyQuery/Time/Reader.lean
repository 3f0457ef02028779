/-
  Reading RFC 3339 timestamps.

  A timestamp is a date, `T`, `t` or a blank, a time of day with an optional
  fraction, and an offset: `Z`, `z`, or a sign (the minus sign U+2212 counts)
  with hours and minutes.  Of a fraction the first nine digits count.

  Each part is read from the front of the text and leaves the text after it.
  The text is read from left to right and the first fault is reported; ranges
  are checked when a part is complete, the size of the offset at the very end.
-/
import EnergyQuery.Time.Timestamp

namespace EnergyQuery

/-- Why a text is no timestamp. -/
inductive TimestampFault where
  | tooShort
  /-- A character stands where it must not. -/
  | invalid
  /-- A part exceeds its range. -/
  | outOfRange
  | trailing
  deriving DecidableEq, Repr

/-- What is reported of a text that is no timestamp. -/
def TimestampFault.message : TimestampFault → String
  | tooShort => "premature end of input"
  | invalid => "input contains invalid characters"
  | outOfRange => "input is out of range"
  | trailing => "trailing input"

namespace Timestamp

/-- The value of a decimal digit. -/
def digitValue (c : Char) : Nat :=
  c.toNat - '0'.toNat

/-- Exactly `count` digits, continuing the number `n`. -/
def readDigits : Nat → Nat → List Char → Except TimestampFault (Nat × List Char)
  | 0, n, s => .ok (n, s)
  | count + 1, n, c :: s =>
    if c.isDigit then readDigits count (10 * n + digitValue c) s else .error .invalid
  | _ + 1, _, [] => .error .invalid

/-- One character that is wanted here; what it is does not matter. -/
def expect (wanted : Char → Bool) : List Char → Except TimestampFault (Unit × List Char)
  | c :: s => if wanted c then .ok ((), s) else .error .invalid
  | [] => .error .invalid

/-- The number of nanoseconds that nine digits stand for, missing ones being zero. -/
def nanosOf (ds : List Char) : Nat :=
  (ds ++ List.replicate (9 - ds.length) '0').foldl (fun n c => 10 * n + digitValue c) 0

/-- The optional fraction of a second, in nanoseconds.  A point that ends the text leaves it too
    short. -/
def readFraction : List Char → Except TimestampFault (Nat × List Char)
  | '.' :: s =>
    match s with
    | [] => .error .tooShort
    | c :: _ =>
      if c.isDigit then .ok (nanosOf ((s.takeWhile Char.isDigit).take 9), s.dropWhile Char.isDigit)
      else .error .invalid
  | s => .ok (0, s)

/-- The length of a text in UTF-8. -/
def byteLength : List Char → Nat
  | [] => 0
  | c :: s => c.utf8Size + byteLength s

/-- Two digits of an offset, the first one below ten; the text must have at least two bytes left. -/
def readOffsetPart (s : List Char) : Except TimestampFault (Nat × List Char) :=
  if byteLength s < 2 then .error .tooShort else readDigits 2 0 s

/-- The minutes of an offset, checked before what follows them is read. -/
def readOffsetMinutes (s : List Char) : Except TimestampFault (Nat × List Char) := do
  let (minutes, s) ← readOffsetPart s
  if minutes < 60 then .ok (minutes, s) else .error .outOfRange

/-- The hours and minutes after the sign of an offset, in minutes. -/
def readOffsetSize (s : List Char) : Except TimestampFault (Nat × List Char) := do
  let (hours, s) ← readOffsetPart s
  match s with
  | [] => .error .tooShort
  | c :: s =>
    if c = ':' then do
      let (minutes, s) ← readOffsetMinutes s
      return (60 * hours + minutes, s)
    else .error .invalid

/-- The offset from UTC in minutes, east being positive. -/
def readOffset : List Char → Except TimestampFault (Int × List Char)
  | [] => .error .tooShort
  | c :: s =>
    if c = 'Z' || c = 'z' then .ok (0, s)
    else if c = '+' then do
      let (n, s) ← readOffsetSize s
      return ((n : Int), s)
    else if c = '-' || c = '\u2212' then do
      let (n, s) ← readOffsetSize s
      return (-(n : Int), s)
    else .error .invalid

/-- The part `valid` of a timestamp is in range. -/
def requireRange (valid : Bool) : Except TimestampFault Unit :=
  if valid then .ok () else .error .outOfRange

/-- A date that exists. -/
def readDate (s : List Char) :
    Except TimestampFault ((Nat × Nat × Nat) × List Char) := do
  let (year, s) ← readDigits 4 0 s
  let (_, s) ← expect (· == '-') s
  let (month, s) ← readDigits 2 0 s
  let (_, s) ← expect (· == '-') s
  let (day, s) ← readDigits 2 0 s
  requireRange (1 ≤ day && day ≤ daysInMonth year month)
  return ((year, month, day), s)

/-- The timestamp that the whole text stands for. -/
def ofChars (s : List Char) : Except TimestampFault Timestamp := do
  if byteLength s < 19 then .error .tooShort
  let ((year, month, day), s) ← readDate s
  let (_, s) ← expect (fun c => c == 'T' || c == 't' || c == ' ') s
  let (hour, s) ← readDigits 2 0 s
  let (_, s) ← expect (· == ':') s
  let (minute, s) ← readDigits 2 0 s
  let (_, s) ← expect (· == ':') s
  let (second, s) ← readDigits 2 0 s
  let (nanos, s) ← readFraction s
  requireRange (hour ≤ 23 && minute ≤ 59 && second ≤ 60)
  let (offset, s) ← readOffset s
  if !s.isEmpty then .error .trailing
  requireRange (offset.natAbs < 24 * 60)
  return { year, month, day, hour, minute, second, nanos, offset }

end Timestamp

end EnergyQuery
