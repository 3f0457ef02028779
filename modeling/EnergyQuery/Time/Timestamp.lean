/-
  Timestamps: a local date and time of day with an offset from UTC.

  * `Timestamp.instant` is the place of a timestamp on the UTC time line, by
    which timestamps compare.  A leap second counts as the second before it
    with a whole second of nanoseconds added;
  * `Timestamp.text` is the written form, with the fewest of no, three, six or
    nine digits of fraction that are exact.
-/

namespace EnergyQuery

/-- A year that has the 29th of February in the Gregorian calendar. -/
def isLeapYear (year : Nat) : Bool :=
  (year % 4 == 0 && year % 100 != 0) || year % 400 == 0

/-- The number of days of a month; months outside 1 to 12 have none. -/
def daysInMonth (year month : Nat) : Nat :=
  match month with
  | 1 | 3 | 5 | 7 | 8 | 10 | 12 => 31
  | 4 | 6 | 9 | 11 => 30
  | 2 => if isLeapYear year then 29 else 28
  | _ => 0

/-- The days of the years before `year`, from year 0 on. -/
def daysBeforeYear (year : Nat) : Nat :=
  365 * year + (year + 3) / 4 + (year + 399) / 400 - (year + 99) / 100

/-- The days of the months of `year` before `month`. -/
def daysBeforeMonth (year month : Nat) : Nat :=
  (List.range (month - 1)).foldl (fun days m => days + daysInMonth year (m + 1)) 0

/-- A local date and time, with its offset from UTC in minutes, east being positive.
    The second `60` is a leap second. -/
structure Timestamp where
  year : Nat
  month : Nat
  day : Nat
  hour : Nat
  minute : Nat
  second : Nat
  nanos : Nat
  offset : Int
  deriving DecidableEq, Repr

namespace Timestamp

/-- The number of the local day, from the first day of year 0 on. -/
def dayNumber (t : Timestamp) : Nat :=
  daysBeforeYear t.year + daysBeforeMonth t.year t.month + (t.day - 1)

/-- The leap second carries its second in the nanoseconds. -/
def isLeapSecond (t : Timestamp) : Bool :=
  t.second == 60

/-- Seconds since the start of year 0 on the local clock, a leap second not counting. -/
def localSeconds (t : Timestamp) : Nat :=
  let second := if t.isLeapSecond then 59 else t.second
  t.dayNumber * 86400 + t.hour * 3600 + t.minute * 60 + second

/-- Seconds since the start of year 0 in UTC, and the nanoseconds after them. -/
def instant (t : Timestamp) : Int × Nat :=
  ((t.localSeconds : Int) - t.offset * 60,
    if t.isLeapSecond then 1000000000 + t.nanos else t.nanos)

/-- The instant of `s` comes before that of `t`. -/
def before (s t : Timestamp) : Bool :=
  decide (s.instant.1 < t.instant.1) ||
    (s.instant.1 == t.instant.1 && decide (s.instant.2 < t.instant.2))

/-- The last `width` decimal digits of a number, led by zeros where it has fewer. -/
def digits : Nat → Nat → List Char
  | 0, _ => []
  | width + 1, n => digits width (n / 10) ++ [Char.ofNat ('0'.toNat + n % 10)]

/-- The fraction of a second: no digit, or the fewest of three, six and nine that are exact. -/
def fraction (nanos : Nat) : List Char :=
  if nanos = 0 then []
  else if nanos % 1000000 = 0 then '.' :: digits 3 (nanos / 1000000)
  else if nanos % 1000 = 0 then '.' :: digits 6 (nanos / 1000)
  else '.' :: digits 9 nanos

/-- The offset as a sign, hours and minutes; `zero` is written for no offset. -/
def offsetText (zero : List Char) (offset : Int) : List Char :=
  if offset = 0 then zero
  else
    (if offset < 0 then '-' else '+') ::
      (digits 2 (offset.natAbs / 60) ++ ':' :: digits 2 (offset.natAbs % 60))

/-- The written form of a timestamp; `zero` is written for no offset. -/
def chars (zero : List Char) (t : Timestamp) : List Char :=
  digits 4 t.year ++ '-' :: (digits 2 t.month ++ '-' :: (digits 2 t.day ++ 'T' ::
    (digits 2 t.hour ++ ':' :: (digits 2 t.minute ++ ':' :: (digits 2 t.second ++
      (fraction t.nanos ++ offsetText zero t.offset))))))

/-- The written form of a timestamp, `Z` standing for no offset. -/
def text (t : Timestamp) : String :=
  String.ofList (t.chars ['Z'])

/-- The written form of a timestamp with its offset always spelled out. -/
def spelledText (t : Timestamp) : String :=
  String.ofList (t.chars ['+', '0', '0', ':', '0', '0'])

end Timestamp

end EnergyQuery
