/-
  Calendar buckets: totals and readings per day or month.

  One row per bucket of the selected window holds the bucket's instant and, if
  wanted, that of the following bucket; instants are shifted from the calendar
  boundary, to noon for instance, clear of midnight and of changes of the clock.
  Readings are staged at hour resolution and looked up at the instants, so the
  total of a bucket is the reading at the next instant less that at its own.
-/
import EnergyQuery.Query.Columns

namespace EnergyQuery

open Sql

/-- How the window is cut into buckets, and at which instants readings are looked up. -/
structure Buckets where
  unit : TimeUnit
  /-- The length of a bucket, such as `1 month`. -/
  step : String
  /-- The shift of an instant from the calendar boundary; empty for none. -/
  offset : String
  /-- The buckets also hold the following bucket's instant. -/
  hasNext : Bool
  deriving DecidableEq, Repr

namespace Buckets

/-- The name of the relation of the buckets. -/
def relation : String := "samples"

/-- The column that holds the instant of the following bucket. -/
def nextColumn : String := "next_time"

/-- The name of a calendar boundary, from which the instants of a bucket are computed. -/
def boundary : String := "bucket"

/-- Days, from noon to noon. -/
def daily : Buckets := ⟨.day, "1 day", "12 hours", true⟩

/-- Months, from noon of the first to noon of the next first. -/
def monthly : Buckets := ⟨.month, "1 month", "12 hours", true⟩

/-- The instant shifted from a boundary. -/
def shifted (b : Buckets) (e : Expr) : Expr :=
  if b.offset.isEmpty then e else .add e (.interval b.offset)

/-- The instant of a bucket. -/
def instant (b : Buckets) : Field :=
  ⟨b.shifted (.column boundary), timeColumn⟩

/-- The instant of the following bucket: a step is added before the shift, as the calendar counts it
    from the boundary. -/
def nextInstant (b : Buckets) : Field :=
  ⟨b.shifted (.add (.column boundary) (.interval b.step)), nextColumn⟩

/-- The buckets of the selected window, a row for each. -/
def statement (b : Buckets) : Statement where
  name := some relation
  fields := b.instant :: if b.hasNext then [b.nextInstant] else []
  source := some (.buckets b.unit b.step .selected boundary)

/-- The last instant that is looked up in a bucket. -/
def edge (b : Buckets) : String :=
  if b.hasNext then nextColumn else timeColumn

/-- The largest value of each hour for one device, over the span that the buckets look up. -/
def stage (b : Buckets) (f : Family) (id : Nat) (e : Entry) : Statement :=
  (f.scan id
    [⟨.truncated .hour (.column timeColumn), timeColumn⟩, ⟨.max e.expr, e.column⟩]).restrict
    [.conjunction, .fromFirst relation, .conjunction, .beforeLast relation b.edge "1 hour",
      .groupedByFirst]

/-- The scope name of the readings at a bucket's own instant. -/
def startOf (f : Family) (id : Nat) : String :=
  f.relation id ++ "_start"

/-- The scope name of the readings at the following bucket's instant. -/
def nextOf (f : Family) (id : Nat) : String :=
  f.relation id ++ "_next"

/-- The readings of `f` under the name `scope`, at the instant `column` of each bucket. -/
def lookup (f : Family) (id : Nat) (scope column : String) : Join where
  kind := .leftOuter
  relation := f.relation id
  alias? := some scope
  condition := .equal (.ref scope timeColumn) (.ref relation column)

/-- The readings of a device at the instant of each bucket and, if wanted, at the following one. -/
def lookups (b : Buckets) (f : Family) (id : Nat) : List Join :=
  lookup f id (startOf f id) timeColumn ::
    if b.hasNext then [lookup f id (nextOf f id) nextColumn] else []

/-- Columns over the buckets and the staged readings of `e`. -/
def select (b : Buckets) (f : Family) (ids : List Nat) (e : Entry) (fields : List Field) :
    Composed Statement := do
  f.requireIds "samples" ids
  let s : Statement :=
    { ctes := b.statement :: ids.map fun id => b.stage f id e
      fields := ⟨.ref relation timeColumn, timeColumn⟩ :: fields
      source := some (.relation relation)
      joins := ids.flatMap (b.lookups f) }
  return (s.restrict [.timePresent (some relation)]).ordered

/-- The counter whose readings are subtracted; there must be a following instant. -/
def counter (b : Buckets) (q : Quantity) : Composed Quantity :=
  if b.hasNext then q.requireCounter else .error .noNextInstant

/-- The reading at the next instant less that at the bucket's own. -/
def difference (f : Family) (id : Nat) (e : Entry) : Expr :=
  .sub (.ref (nextOf f id) e.column) (.ref (startOf f id) e.column)

/-- The total of each device per bucket. -/
def totalEach (b : Buckets) (f : Family) (ids : List Nat) (q : Quantity) : Composed Statement := do
  let e ← f.entry (← b.counter q)
  let label := (← f.entry q).column
  b.select f ids e (ids.map fun id => ⟨difference f id e, f.deviceName id label⟩)

/-- The total of all devices per bucket, a missing one counting as zero. -/
def total (b : Buckets) (f : Family) (ids : List Nat) (q : Quantity) : Composed Statement := do
  let e ← f.entry (← b.counter q)
  let label := (← f.entry q).column
  b.select f ids e [⟨.sum (ids.map fun id => .orZero (difference f id e)), f.familyName label⟩]

/-- The reading of each device at each bucket's instant. -/
def readings (b : Buckets) (f : Family) (ids : List Nat) (q : Quantity) : Composed Statement := do
  q.requireInstant "samples snapshot"
  let e ← f.entry q
  b.select f ids e (ids.map fun id => ⟨.ref (startOf f id) e.column, f.deviceName id e.column⟩)

end Buckets

end EnergyQuery
