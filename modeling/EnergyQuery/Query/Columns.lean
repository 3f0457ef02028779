/-
  Columns computed over staged relations.

  Several devices of one family are combined row by row:

  * `Family.sumOf` adds their values, a missing one counting as zero;
  * `Family.averageOf` divides that sum by the number of devices whose value
    exceeds a threshold, and is missing where there is none;
  * `Family.spanOf` adds the spans of a counter over all rows.

  A single device needs no combination: the first two are its column, the last
  is the span of it.
-/
import EnergyQuery.Fault
import EnergyQuery.Sql.Statement

namespace EnergyQuery

open Sql

namespace Family

/-- The column of a quantity that the catalog must have, in the relation of a device. -/
def field (f : Family) (q : Quantity) : Composed Field := do
  return (← f.entry q).field

/-- The staged column of a quantity that the catalog must have, for one device. -/
def column (f : Family) (id : Nat) (q : Quantity) : Composed Expr := do
  return f.columnOf id (← f.entry q)

/-! ## Combining devices -/

/-- The sum of a staged column over the devices. -/
def sumOf (f : Family) (ids : List Nat) (e : Entry) : Expr :=
  match ids with
  | [id] => f.columnOf id e
  | _ => .sum (ids.map fun id => .orZero (f.columnOf id e))

/-- The average of a staged column over the devices whose value exceeds `threshold`. -/
def averageOf (f : Family) (ids : List Nat) (e : Entry) (threshold : Expr) : Expr :=
  match ids with
  | [id] => f.columnOf id e
  | _ =>
    .div (f.sumOf ids e)
      (.nullIfZero (.sum (ids.map fun id => .flagAbove (f.columnOf id e) threshold)))

/-- The span of a staged counter over all rows, added over the devices. -/
def spanOf (f : Family) (ids : List Nat) (counter : Entry) : Expr :=
  match ids with
  | [id] => .sub (.max (f.columnOf id counter)) (.min (f.columnOf id counter))
  | _ => .spanSum (ids.map fun id => (.plus, f.columnOf id counter))

/-- `sumOf` for a quantity that the catalog must have. -/
def sum (f : Family) (ids : List Nat) (q : Quantity) : Composed Expr := do
  f.requireIds "ps" ids
  return f.sumOf ids (← f.entry q)

/-- `averageOf` for a quantity that the catalog must have. -/
def average (f : Family) (ids : List Nat) (q : Quantity) (threshold : Expr) : Composed Expr := do
  f.requireIds "pa" ids
  return f.averageOf ids (← f.entry q) threshold

/-- `spanOf` for a counter that the catalog must have. -/
def windowSpan (f : Family) (ids : List Nat) (counter : Quantity) : Composed Expr := do
  f.requireIds "pd" ids
  return f.spanOf ids (← f.entry counter)

/-! ## Scans -/

/-- The rows of one device in the table of its family. -/
def scan (f : Family) (id : Nat) (fields : List Field) : Statement where
  name := some (f.relation id)
  fields := fields
  source := some (.relation f.table)
  clauses := [.device id]

/-- One scan per device, with `time` and the quantities, over the selected window. -/
def stage (f : Family) (ids : List Nat) (qs : List Quantity) : Composed (List Statement) :=
  if ids.isEmpty then .ok []
  else do
    let fields ← qs.mapM f.field
    return ids.map fun id => (f.scan id (.time :: fields)).inWindow

end Family

end EnergyQuery
