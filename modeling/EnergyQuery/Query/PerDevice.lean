/-
  Every chosen quantity of every device as a column of its own.

  Columns are grouped by device, in the order of the devices, and within a
  device in the order in which the channels were chosen.  A quantity that is
  chosen several times is staged once.
-/
import EnergyQuery.Query.Alignment

namespace EnergyQuery

open Sql

/-- A chosen quantity; its output label is the staged column unless one is given. -/
structure Channel where
  quantity : Quantity
  label : Option String := none
  deriving DecidableEq, Repr

/-- The column of a channel for one device, and its output name. -/
def Family.deviceField (f : Family) (id : Nat) (e : Entry) (label : Option String) : Field :=
  ⟨f.columnOf id e, f.deviceName id (label.getD e.column)⟩

/-- The devices of a family, with the channels chosen for each of them. -/
structure PerDevice where
  family : Family
  ids : List Nat
  channels : List Channel := []

namespace PerDevice

/-- One more channel, which must have a value at every instant. -/
def choose (p : PerDevice) (c : Channel) : Composed PerDevice := do
  c.quantity.requireInstant "proxy"
  return { p with channels := p.channels ++ [c] }

/-- Every chosen quantity once, in the order of choice. -/
def quantities (p : PerDevice) : List Quantity :=
  (p.channels.map (·.quantity)).eraseDups

/-- The alignment of the devices with a column for each device and channel. -/
def alignment (p : PerDevice) : Composed Alignment := do
  let a ← p.family.align p.ids p.quantities
  let chosen ← p.channels.mapM fun c => do return (← p.family.entry c.quantity, c.label)
  return a.compute (p.ids.flatMap fun id => chosen.map fun c => p.family.deviceField id c.1 c.2)

/-- The statement of the chosen columns. -/
def statement (p : PerDevice) : Composed Statement := do
  return (← p.alignment).statement

end PerDevice

/-- The alignment of the devices with a column for each device and quantity. -/
def Family.perDevice (f : Family) (ids : List Nat) (qs : List Quantity) : Composed Alignment := do
  qs.forM (·.requireInstant "proxy")
  PerDevice.alignment { family := f, ids := ids, channels := qs.map fun q => { quantity := q } }

end EnergyQuery
