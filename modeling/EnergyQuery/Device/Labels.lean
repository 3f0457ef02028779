/-
  Labels of the auxiliary temperature channels of a weather station.

  Labels become quoted output columns, so they must be distinct and differ
  from the columns of the station.  The dashboard replaces placeholders
  anywhere in a statement, quoted identifiers included, so no label may hold
  the start of one.  Blanks around a label do not count, and a blank label
  hides its channel.
-/
import EnergyQuery.Device.Catalog
import EnergyQuery.Text.Blank

namespace EnergyQuery

/-- The number of auxiliary temperature channels of a weather station. -/
def channelCount : Nat := 7

/-- Why a list of labels would not give distinct output columns. -/
inductive LabelFault where
  | tooMany (count : Nat)
  | duplicate (label : String)
  | reserved (label : String)
  | placeholder (label : String)
  deriving DecidableEq, Repr

/-- What is reported of labels that are refused. -/
def LabelFault.message : LabelFault → String
  | tooMany count =>
    "weather stations carry " ++ toString channelCount ++ " temperature channels, got " ++
      toString count ++ " labels"
  | duplicate label => "weather label '" ++ label ++ "' is used more than once"
  | reserved label => "weather label '" ++ label ++ "' collides with a weather column name"
  | placeholder label =>
    "weather label '" ++ label ++ "' contains a host placeholder prefix '$__'"

/-- The three characters that every placeholder starts with. -/
def placeholderMark : List Char := ['$', '_', '_']

/-- `s` holds the start of a placeholder. -/
def hasPlaceholderMark : List Char → Bool
  | [] => false
  | c :: cs => placeholderMark.isPrefixOf (c :: cs) || hasPlaceholderMark cs

namespace Labels

/-- The first fault of the labels, given those already accepted. -/
def scan (seen : List String) : List String → Except LabelFault Unit
  | [] => .ok ()
  | l :: more =>
    let label := Text.trim l
    if label.isEmpty then scan seen more
    else if hasPlaceholderMark label.toList then .error (.placeholder label)
    else if Family.weather.catalog.any (·.column == label) then .error (.reserved label)
    else if seen.contains label then .error (.duplicate label)
    else scan (label :: seen) more

/-- Accepts at most `channelCount` labels that are distinct, unreserved and free of placeholders,
    and otherwise reports the first fault: the count, then the leftmost faulty label. -/
def check (labels : List String) : Except LabelFault Unit :=
  if labels.length > channelCount then .error (.tooMany labels.length)
  else scan [] labels

end Labels

end EnergyQuery
