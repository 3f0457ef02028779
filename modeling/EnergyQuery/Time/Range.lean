/-
  Time ranges: the two timestamps that a dashboard shows the readings between.

  * `TimeRange.ofTexts` reads a range from two texts, and refuses one that is
    empty;
  * `startLiteral` and `stopLiteral` are what stands for a range in a statement.
-/
import EnergyQuery.Text.Blank
import EnergyQuery.Text.Quoted
import EnergyQuery.Time.Reader

namespace EnergyQuery

/-- The first timestamp of a range and the last; ranges that are read are not empty. -/
structure TimeRange where
  start : Timestamp
  stop : Timestamp
  deriving DecidableEq, Repr

/-- Why two texts give no time range. -/
inductive RangeFault where
  | invalid (value : String) (f : TimestampFault)
  /-- The first timestamp is not before the second. -/
  | empty (start stop : Timestamp)
  deriving DecidableEq, Repr

/-- What is reported of two texts that give no time range. -/
def RangeFault.message : RangeFault → String
  | invalid value f => "Invalid RFC 3339 timestamp '" ++ value ++ "': " ++ f.message
  | empty start stop =>
    "Empty time range: " ++ start.spelledText ++ " is not before " ++ stop.spelledText

namespace TimeRange

/-- The timestamp that a text stands for, blanks around it not counting. -/
def readBound (value : String) : Except RangeFault Timestamp :=
  (Timestamp.ofChars (Text.trimList value.toList)).mapError (.invalid value)

/-- The range between two timestamps, the first of which must come first. -/
def between (start stop : Timestamp) : Except RangeFault TimeRange :=
  if start.before stop then .ok ⟨start, stop⟩ else .error (.empty start stop)

/-- The range between the timestamps that two texts stand for. -/
def ofTexts (start stop : String) : Except RangeFault TimeRange := do
  between (← readBound start) (← readBound stop)

/-- The string literal of the first timestamp. -/
def startLiteral (r : TimeRange) : String :=
  Text.quoteLiteral r.start.text

/-- The string literal of the last timestamp. -/
def stopLiteral (r : TimeRange) : String :=
  Text.quoteLiteral r.stop.text

end TimeRange

end EnergyQuery
