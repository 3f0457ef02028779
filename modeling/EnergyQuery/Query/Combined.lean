/-
  One column per quantity for all devices of a family together.

  The columns are named after the family.  A quantity that enters several
  columns is staged once.
-/
import EnergyQuery.Query.PerDevice

namespace EnergyQuery

open Sql

/-- Columns over all devices of a family, each with the quantity it combines. -/
structure Combined where
  family : Family
  ids : List Nat
  columns : List (Quantity × Field) := []

namespace Combined

/-- One more column, of quantity `q` and under the name of the family. -/
def add (c : Combined) (q : Quantity) (e : Expr) (column : String) : Combined :=
  { c with columns := c.columns ++ [(q, ⟨e, c.family.familyName column⟩)] }

/-- The sum of a quantity, a missing value counting as zero. -/
def sum (c : Combined) (q : Quantity) : Composed Combined := do
  q.requireInstant "proxy sum"
  let e ← c.family.entry q
  return c.add q (← c.family.sum c.ids q) e.column

/-- The average of a quantity over the devices whose value exceeds `threshold`. -/
def average (c : Combined) (q : Quantity) (threshold : Expr) : Composed Combined := do
  q.requireInstant "proxy average"
  let e ← c.family.entry q
  return c.add q (← c.family.average c.ids q threshold) e.column

/-- Every combined quantity once, in the order of the columns. -/
def quantities (c : Combined) : List Quantity :=
  (c.columns.map (·.1)).eraseDups

/-- The alignment of the devices with the chosen columns. -/
def alignment (c : Combined) : Composed Alignment := do
  return (← c.family.align c.ids c.quantities).compute (c.columns.map (·.2))

/-- The statement of the chosen columns. -/
def statement (c : Combined) : Composed Statement := do
  return (← c.alignment).statement

end Combined

end EnergyQuery
