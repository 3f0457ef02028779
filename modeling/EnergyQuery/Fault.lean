/-
  Faults of composition: calls that no statement answers.

  Each constructor is a cause; `Fault.message` is its wording.
-/
import EnergyQuery.Device.Labels

namespace EnergyQuery

/-- Why no statement can be composed. -/
inductive Fault where
  /-- A window total where `builder` writes one row per instant. -/
  | windowTotal (builder : String) (q : Quantity)
  /-- A quantity without a counter where a window total is wanted, by `builder` if it has a name. -/
  | notWindowTotal (builder : Option String) (q : Quantity)
  | undeclared (family : String) (q : Quantity)
  | noIds (builder family : String)
  | noDevice (combination : String)
  | noRelation (builder : String)
  /-- Differences between buckets where the buckets have no next instant. -/
  | noNextInstant
  | labels (f : LabelFault)
  deriving DecidableEq, Repr

/-- What is reported of a call that no statement answers. -/
def Fault.message : Fault → String
  | windowTotal builder q =>
    builder ++ ": " ++ q.name ++ " is a window-delta quantity, use the delta factories"
  | notWindowTotal none q => q.name ++ " is not a window-delta quantity"
  | notWindowTotal (some builder) q =>
    builder ++ ": " ++ q.name ++ " is not a window-delta quantity"
  | undeclared family q => "family '" ++ family ++ "' has no " ++ q.name ++ " field"
  | noIds builder family => builder ++ ": empty id list for family '" ++ family ++ "'"
  | noDevice combination => combination ++ ": combination without any device"
  | noRelation builder => builder ++ " over an empty relation list"
  | noNextInstant => "bucket deltas need samples built with include_next"
  | labels f => f.message

/-- A statement, a column or another part, unless composing it fails. -/
abbrev Composed (α : Type) := Except Fault α

namespace Quantity

/-- Window totals have no value at a single instant, so `builder` refuses them. -/
def requireInstant (q : Quantity) (builder : String) : Composed Unit :=
  if q.isWindowTotal then .error (.windowTotal builder q) else .ok ()

/-- The counter behind a window total. -/
def requireCounter (q : Quantity) : Composed Quantity :=
  match q.counter with
  | some c => .ok c
  | none => .error (.notWindowTotal none q)

end Quantity

namespace Family

/-- The catalog entry of a quantity that the family must have. -/
def entry (f : Family) (q : Quantity) : Composed Entry :=
  match f.find? q with
  | some e => .ok e
  | none => .error (.undeclared f.basename q)

/-- `builder` needs at least one device. -/
def requireIds (f : Family) (builder : String) (ids : List Nat) : Composed Unit :=
  if ids.isEmpty then .error (.noIds builder f.basename) else .ok ()

end Family

end EnergyQuery
