/-
  Booleans, numbers and dates.

  Each of these is a run of characters without punctuation, with blanks at most
  inside it, so it is judged as a whole.  Underscores may stand between digits.
  Dates and times must exist; a leap second does.

  * `scalarOf?` is the value of such a run;
  * `isValueless` tells the runs that pass for a numeral and have no value: they
    may stand wherever nothing asks for their value.
-/
import EnergyQuery.Time.Reader
import EnergyQuery.Toml.Value

namespace EnergyQuery.Toml

/-- The value of a hexadecimal digit. -/
def hexValue? (c : Char) : Option Nat :=
  if c.isDigit then some (c.toNat - '0'.toNat)
  else if 'a' ≤ c && c ≤ 'f' then some (c.toNat - 'a'.toNat + 10)
  else if 'A' ≤ c && c ≤ 'F' then some (c.toNat - 'A'.toNat + 10)
  else none

/-- The value of a digit in the given base, at most 16. -/
def digitValue? (base : Nat) (c : Char) : Option Nat :=
  (hexValue? c).filter (· < base)

/-- The digits of a number, without the underscores between them. -/
def digitsOf? (base : Nat) : List Char → Option (List Nat)
  | [] => none
  | [c] => do return [← digitValue? base c]
  | c :: '_' :: s => do return (← digitValue? base c) :: (← digitsOf? base s)
  | c :: s => do return (← digitValue? base c) :: (← digitsOf? base s)

/-- The number that digits stand for in the given base. -/
def ofDigits (base : Nat) (ds : List Nat) : Nat :=
  ds.foldl (fun n d => base * n + d) 0

/-- Whether a minus sign comes first, and the text after the optional sign. -/
def signOf : List Char → Bool × List Char
  | '+' :: s => (false, s)
  | '-' :: s => (true, s)
  | s => (false, s)

/-- Decimal digits without a leading zero. -/
def wholeOf? (s : List Char) : Option (List Nat) := do
  let ds ← digitsOf? 10 s
  if ds.length > 1 && ds.head? == some 0 then none else some ds

/-- The value of an integer; only a decimal one can have a sign. -/
def integerOf? (s : List Char) : Option Int :=
  match s with
  | '0' :: 'x' :: s => do return ofDigits 16 (← digitsOf? 16 s)
  | '0' :: 'o' :: s => do return ofDigits 8 (← digitsOf? 8 s)
  | '0' :: 'b' :: s => do return ofDigits 2 (← digitsOf? 2 s)
  | s => do
    let (negative, s) := signOf s
    let n ← wholeOf? s
    return if negative then -(ofDigits 10 n : Int) else ofDigits 10 n

/-- The smallest number that rounds to infinity in binary64. -/
def binary64Bound : Nat := (Nat.pow 2 54 - 1) * Nat.pow 2 970

/-- `n * 10 ^ e` rounds to a finite binary64 number. -/
def isFinite (n : Nat) (e : Int) : Bool :=
  let size := (toString n).length + e
  -- The bound has 309 digits, so that most sizes decide without a comparison of large numbers.
  if n = 0 || size < 309 then true
  else if size > 309 then false
  else if e < 0 then n < binary64Bound * Nat.pow 10 e.natAbs
  else n * Nat.pow 10 e.natAbs < binary64Bound

/-- The exponent of a float literal, none meaning zero. -/
def exponentOf? (s : List Char) : Option Int :=
  match s with
  | [] => some 0
  | c :: s =>
    if c = 'e' || c = 'E' then do
      let (negative, s) := signOf s
      let n := ofDigits 10 (← digitsOf? 10 s)
      return if negative then -(n : Int) else n
    else none

/-- A character of the digits of a float, on either side of the point. -/
def isMantissaChar (c : Char) : Bool :=
  c.isDigit || c == '_'

/-- A float literal: a fraction, an exponent, or both; the result tells if it is finite. -/
def floatOf? (s : List Char) : Option Bool := do
  let (_, s) := signOf s
  if s = "inf".toList || s = "nan".toList then return true
  let whole ← wholeOf? (s.takeWhile isMantissaChar)
  match s.dropWhile isMantissaChar with
  | '.' :: s => do
    let places ← digitsOf? 10 (s.takeWhile isMantissaChar)
    let e ← exponentOf? (s.dropWhile isMantissaChar)
    return isFinite (ofDigits 10 (whole ++ places)) (e - places.length)
  | [] => none
  | s => do
    let e ← exponentOf? s
    return isFinite (ofDigits 10 whole) e

/-! ## Dates and times -/

/-- A number of exactly `count` digits, and the text after it. -/
def fixedDigits? (count : Nat) (s : List Char) : Option (Nat × List Char) :=
  let ds := s.take count
  if ds.length = count && ds.all Char.isDigit then
    some (ofDigits 10 (ds.map Timestamp.digitValue), s.drop count)
  else none

/-- The text after a character that must stand here. -/
def after? (c : Char) : List Char → Option (List Char)
  | d :: s => if c = d then some s else none
  | [] => none

/-- A date that exists, and the text after it. -/
def dateOf? (s : List Char) : Option (List Char) := do
  let (year, s) ← fixedDigits? 4 s
  let (month, s) ← fixedDigits? 2 (← after? '-' s)
  let (day, s) ← fixedDigits? 2 (← after? '-' s)
  if 1 ≤ day && day ≤ daysInMonth year month then some s else none

/-- The optional fraction of a second: a point and at least one digit. -/
def fractionOf? : List Char → Option (List Char)
  | '.' :: s => if (s.takeWhile Char.isDigit).isEmpty then none else some (s.dropWhile Char.isDigit)
  | s => some s

/-- The text after the optional seconds of a time of day, which must exist. -/
def secondsOf? : List Char → Option (List Char)
  | ':' :: s => do
    let (second, s) ← fixedDigits? 2 s
    if second ≤ 60 then fractionOf? s else none
  | s => some s

/-- The text after hours and minutes, which must exist. -/
def clockOf? (s : List Char) : Option (List Char) := do
  let (hour, s) ← fixedDigits? 2 s
  let (minute, s) ← fixedDigits? 2 (← after? ':' s)
  if hour ≤ 23 && minute ≤ 59 then some s else none

/-- A time of day that exists, and the text after it. -/
def timeOf? (s : List Char) : Option (List Char) := do
  secondsOf? (← clockOf? s)

/-- An optional offset that ends the text. -/
def isOffset : List Char → Bool
  | [] => true
  | ['Z'] | ['z'] => true
  | c :: s => (c = '+' || c = '-') && clockOf? s == some []

/-- The text is a date, a time, or a date and a time. -/
def isDate (s : List Char) : Bool :=
  match timeOf? s with
  | some [] => true
  | _ =>
    match dateOf? s with
    | none => false
    | some [] => true
    | some (c :: s) =>
      (c = 'T' || c = 't' || c = ' ') &&
        match timeOf? s with
        | none => false
        | some s => isOffset s

/-! ## Numerals without a value -/

/-- The mark of a base, without digits. -/
def isBareBase (s : List Char) : Bool :=
  s = "0x".toList || s = "0o".toList || s = "0b".toList

/-- A hexadecimal digit. -/
def isHexDigit (c : Char) : Bool :=
  (hexValue? c).isSome

/-- Every underscore stands between two hexadecimal digits. -/
def groupsDigits : List Char → Bool
  | [] => true
  | '_' :: _ => false
  | c :: '_' :: s => isHexDigit c && s.head?.any isHexDigit && groupsDigits s
  | _ :: s => groupsDigits s

/-- A character that no numeral in groups holds: a space, a point or the mark of an exponent. -/
def endsGroups (c : Char) : Bool :=
  c == ' ' || c == '.' || c == 'e' || c == 'E'

/-- Digits without a leading zero, an underscore, and then any text in groups. -/
def isGrouped (s : List Char) : Bool :=
  let (_, s) := signOf s
  s.head?.any (fun c => c.isDigit && c != '0') && (s.dropWhile Char.isDigit).head? == some '_' &&
    groupsDigits s && !s.any endsGroups

/-- The text passes for a numeral, but has no value. -/
def isValueless (s : List Char) : Bool :=
  isBareBase s || isGrouped s

/-! ## All scalars -/

/-- The value that a run of characters stands for. -/
def scalarOf? (s : List Char) : Option Value :=
  if s = "true".toList then some (.boolean true)
  else if s = "false".toList then some (.boolean false)
  else
    match integerOf? s with
    | some n => some (.integer n)
    | none =>
      match floatOf? s with
      | some finite => some (.float finite)
      | none =>
        if isDate s then some .date
        else if isValueless s then some .valueless
        else none

end EnergyQuery.Toml
