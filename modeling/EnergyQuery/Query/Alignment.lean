/-
  Alignments: several staged relations merged into one row per instant.

  The relations are full outer joined on equal times with the first one, the
  anchor, inside a derived table named `proxy`; the statement around it selects
  the output names in the order of time:

    WITH solar1 AS (..), solar8 AS (..)
    SELECT time, "solar.power_w"
    FROM (SELECT COALESCE(solar1.time, solar8.time) AS time, .. AS "solar.power_w"
          FROM solar1 FULL OUTER JOIN solar8 ON solar1.time = solar8.time OFFSET 0) AS proxy
    WHERE time IS NOT NULL ORDER BY time

  * `timeOf` is the common time of a joined row;
  * `Alignment.inner` is the derived table, `Alignment.statement` the whole.
-/
import EnergyQuery.Query.Columns

namespace EnergyQuery

open Sql

/-- The time of a joined row: that of the first relation that has a row in it. -/
def timeOf (anchor : String) (others : List String) : Field :=
  match others with
  | [] => ⟨.ref anchor timeColumn, timeColumn⟩
  | _ => ⟨.firstOf (anchor :: others) timeColumn, timeColumn⟩

/-- `timeOf` for a list of relations that must not be empty. -/
def timeOfAll : List String → Composed Field
  | [] => .error (.noRelation "time proxy")
  | anchor :: others => .ok (timeOf anchor others)

/-- The name of the derived table. -/
def derivedName : String := "proxy"

/-- Staged relations, joined to the first of them, and the columns computed over a joined row. -/
structure Alignment where
  staged : List Statement
  anchor : String
  others : List String
  joins : List Join
  fields : List Field

namespace Alignment

/-- The alignment of a list of relations that must not be empty. -/
def ofRelations (staged : List Statement) (relations : List String) (joins : List Join) :
    Composed Alignment :=
  match relations with
  | [] => .error (.noRelation "proxy query")
  | anchor :: others => .ok ⟨staged, anchor, others, joins, []⟩

/-- Every relation, the anchor first. -/
def relations (a : Alignment) : List String :=
  a.anchor :: a.others

/-- The alignment with more computed columns. -/
def compute (a : Alignment) (fields : List Field) : Alignment :=
  { a with fields := a.fields ++ fields }

/-- The joined relations, with the common time before the computed columns. -/
def inner (a : Alignment) : Chain where
  fields := timeOf a.anchor a.others :: a.fields
  anchor := a.anchor
  joins := a.joins

/-- The derived table that the statement selects from. -/
def source (a : Alignment) : Source :=
  .derived a.inner derivedName

/-- The statement that selects every computed column by its name. -/
def statement (a : Alignment) : Statement :=
  let s : Statement :=
    { ctes := a.staged
      fields := .time :: a.fields.map fun f => .ofName f.name
      source := some a.source }
  s.timePresent.ordered

end Alignment

/-- The alignment of the devices of one family, staged with `qs`. -/
def Family.align (f : Family) (ids : List Nat) (qs : List Quantity) : Composed Alignment :=
  match ids with
  | [] => .error (.noIds "proxy" f.basename)
  | id :: rest => do
    let staged ← f.stage ids qs
    return ⟨staged, f.relation id, rest.map f.relation, f.timeJoins (f.relation id) rest, []⟩

end EnergyQuery
