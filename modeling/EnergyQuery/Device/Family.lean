/-
  Device families.

  A family is a physical table holding the readings of all its devices, with
  a catalog that says how each quantity is computed from a row of the table
  and under which column it is staged.  A device is a number; its staged
  relation is named by the family's basename followed by the number.
-/
import EnergyQuery.Device.Quantity
import EnergyQuery.Sql.Field

namespace EnergyQuery

open Sql

/-- How a quantity is computed from a row of the family's table, and the column that holds it in
    the relation of a device. -/
structure Entry where
  quantity : Quantity
  expr : Expr
  column : String
  deriving DecidableEq, Repr

namespace Entry

/-- A physical column staged under its own name. -/
def physical (q : Quantity) (column : String) : Entry :=
  ⟨q, .column column, column⟩

/-- The entry as a column of the relation of a device. -/
def field (e : Entry) : Field :=
  ⟨e.expr, e.column⟩

end Entry

/-- Devices of one kind, whose readings share a table. -/
structure Family where
  /-- The start of every relation name of the family. -/
  basename : String
  /-- The physical table with the rows of all devices. -/
  table : String
  catalog : List Entry
  deriving DecidableEq, Repr

namespace Family

/-- The first catalog entry of a quantity. -/
def find? (f : Family) (q : Quantity) : Option Entry :=
  f.catalog.find? (·.quantity == q)

/-- The name of the relation that a device is staged under. -/
def relation (f : Family) (id : Nat) : String :=
  f.basename ++ toString id

/-- The staged column of an entry, in the relation of one device. -/
def columnOf (f : Family) (id : Nat) (e : Entry) : Expr :=
  .ref (f.relation id) e.column

/-- The output name of a column of one device. -/
def deviceName (f : Family) (id : Nat) (label : String) : Name :=
  .quoted (f.relation id ++ "." ++ label)

/-- The output name of a column of the whole family. -/
def familyName (f : Family) (label : String) : Name :=
  .quoted (f.basename ++ "." ++ label)

/-- The devices' relations, full outer joined to `anchor` on equal times. -/
def timeJoins (f : Family) (anchor : String) (ids : List Nat) : List Join :=
  ids.map fun id => .onTime anchor (f.relation id)

end Family

end EnergyQuery
