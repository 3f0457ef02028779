/-
  Placeholders of the dashboard's time range.

    $__timeFilter(column)   the column lies in the range
    $__timeFrom()           the start of the range
    $__timeTo()             the end of the range

  Blanks may stand inside the parentheses.  A column is a letter or underscore
  followed by letters, digits, underscores and points, all ASCII.

  * `replaceAll` replaces every match from left to right, going on after each;
  * `expand` replaces the three placeholders, one after the other.
-/
import EnergyQuery.Time.Range

namespace EnergyQuery

namespace Placeholder

/-- The rest of `s` after `start`, if `s` begins with it. -/
def afterStart? : List Char → List Char → Option (List Char)
  | [], s => some s
  | _ :: _, [] => none
  | c :: cs, d :: s => if c = d then afterStart? cs s else none

/-- The rest of `s` after blanks and a closing parenthesis. -/
def afterClose? (s : List Char) : Option (List Char) :=
  afterStart? [')'] (s.dropWhile Text.isBlank)

/-- A character that a column can start with. -/
def startsColumn (c : Char) : Bool :=
  c.isAlpha || c == '_'

/-- A character that a column can go on with. -/
def continuesColumn (c : Char) : Bool :=
  c.isAlphanum || c == '_' || c == '.'

/-- A filter at the start of `s`: its column, and the rest. -/
def filter? (s : List Char) : Option (List Char × List Char) := do
  let s ← afterStart? "$__timeFilter(".toList s
  match s.dropWhile Text.isBlank with
  | [] => none
  | c :: s =>
    if startsColumn c then
      return (c :: s.takeWhile continuesColumn, ← afterClose? (s.dropWhile continuesColumn))
    else none

/-- The start of the range at the start of `s`, and the rest. -/
def from? (s : List Char) : Option (List Char) := do
  afterClose? (← afterStart? "$__timeFrom(".toList s)

/-- The end of the range at the start of `s`, and the rest. -/
def to? (s : List Char) : Option (List Char) := do
  afterClose? (← afterStart? "$__timeTo(".toList s)

/-- Replaces every match of `m` from left to right.  A match gives the text that replaces it and
    the rest to go on with, which is always shorter than the text matched against. -/
def replaceAll (m : List Char → Option (List Char × List Char)) : List Char → List Char
  | [] => []
  | c :: s =>
    match m (c :: s) with
    | none => c :: replaceAll m s
    | some (r, rest) =>
      -- What is left is shorter for every matcher used; the test lets the recursion be seen to end.
      if rest.length ≤ s.length then r ++ replaceAll m rest else c :: replaceAll m s
termination_by s => s.length

/-- The condition that a column lies between two instants, given by their literals. -/
def between (start stop column : List Char) : List Char :=
  column ++ " BETWEEN ".toList ++ start ++ " AND ".toList ++ stop

/-- A filter at the start of `s`: the condition that it stands for, and the rest. -/
def filterValue? (start stop s : List Char) : Option (List Char × List Char) :=
  (filter? s).map fun (column, rest) => (between start stop column, rest)

/-- The start of the range at the start of `s`: its literal, and the rest. -/
def fromValue? (start s : List Char) : Option (List Char × List Char) :=
  (from? s).map (start, ·)

/-- The end of the range at the start of `s`: its literal, and the rest. -/
def toValue? (stop s : List Char) : Option (List Char × List Char) :=
  (to? s).map (stop, ·)

/-- Replaces the filters, then the starts, then the ends. -/
def expandList (start stop s : List Char) : List Char :=
  let s := replaceAll (filterValue? start stop) s
  let s := replaceAll (fromValue? start) s
  replaceAll (toValue? stop) s

/-- The text with every placeholder replaced by the range's literals. -/
def expand (r : TimeRange) (sql : String) : String :=
  String.ofList (expandList r.startLiteral.toList r.stopLiteral.toList sql.toList)

end Placeholder

end EnergyQuery
