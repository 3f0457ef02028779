/-
  Names of output columns.
-/
import EnergyQuery.Text.Quoted

namespace EnergyQuery.Sql

/-- The name of a column. -/
inductive Name where
  /-- A name written as it stands. -/
  | plain (text : String)
  /-- A name written as a quoted identifier. -/
  | quoted (text : String)
  deriving DecidableEq, Repr

/-- The written form of a name. -/
def Name.text : Name → String
  | plain t => t
  | quoted t => Text.quoteName t

instance : Coe String Name := ⟨.plain⟩

/-- The column that every relation is indexed by. -/
def timeColumn : String := "time"

end EnergyQuery.Sql
