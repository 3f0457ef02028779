/-
  What statements give when they are executed.

  * A `Record` is a row of a relation: its columns by name.  A `JoinedRow` holds
    at most one record of each relation in scope; a relation that has none is
    padded with NULLs;
  * `Database` is all that a statement reads but does not say itself: the
    content of the relations, the instants of a window, the calendar;
  * `Join.apply` attaches a relation to joined rows, `Chain.rows` a chain of
    them, from left to right;
  * `Statement.run` is the result of a statement: its common table expressions
    are bound one after the other, each seeing those before it.  Rows are kept
    by the clauses, grouped, and computed; one group holds all rows if a field
    ranges over a group.
-/
import EnergyQuery.Proofs.Sql.Meaning
import Mathlib.Data.List.Dedup
import Mathlib.Data.List.Sort
import Mathlib.Logic.Function.Basic

namespace EnergyQuery.Sql

/-! ## Rows -/

/-- A row of a relation: its columns in order. -/
abbrev Record := List (String × Value)

/-- The column of a record; one that it does not have is NULL. -/
def Record.get (r : Record) (n : String) : Value :=
  (r.lookup n).join

/-- The records of the relations in scope; `none` for a relation that is padded with NULLs. -/
abbrev JoinedRow := String → Option Record

namespace JoinedRow

/-- The row with one record, every other relation being padded. -/
def single (name : String) (r : Record) : JoinedRow :=
  Function.update (fun _ => none) name (some r)

/-- The column of a relation in a joined row. -/
def ref (row : JoinedRow) (name column : String) : Value :=
  (row name).bind (·.get column)

end JoinedRow

/-- What statements read. -/
structure Database where
  /-- The records of a table, or of a common table expression once it is bound. -/
  relation : String → List Record
  inWindow : Window → ℚ → Bool
  /-- The boundaries of a calendar unit in the window, spaced by a step. -/
  series : TimeUnit → String → Window → List ℚ
  /-- The last boundary of a calendar unit that is not after an instant. -/
  boundary : TimeUnit → ℚ → ℚ
  text : String → Value

/-- The column that tells the devices of a table apart. -/
def deviceColumn : String := "series_id"

/-- NULL and zero are not true. -/
def Value.isTrue (v : Value) : Bool :=
  v.any (· ≠ 0)

/-- The first value is present and lies before the second, which is too. -/
def Value.before (v w : Value) : Bool :=
  exceeds w v

namespace Database

/-- The database in which `name` stands for `rs`. -/
def bind (db : Database) (name : String) (rs : List Record) : Database :=
  { db with relation := Function.update db.relation name rs }

/-- The scope of a joined row; columns without a relation are those of `source`. -/
def scope (db : Database) (source : String) (row : JoinedRow) : Scope where
  column := row.ref source
  ref := row.ref
  text := db.text
  boundary := db.boundary

end Database

/-! ## Joins -/

/-- The rows agree in the two expressions, which must be present. -/
def Condition.holds (σ : Scope) : Condition → Bool
  | equal l r => (l.value [σ] σ).any fun x => r.value [σ] σ == some x
  | verbatim t => (σ.text t).isTrue

/-- Rows before a join are kept without a partner. -/
def JoinKind.keepsLeft : JoinKind → Bool
  | fullOuter | leftOuter => true
  | verbatim _ => false

/-- Records of the joined relation are kept without a partner. -/
def JoinKind.keepsRight : JoinKind → Bool
  | fullOuter => true
  | leftOuter | verbatim _ => false

namespace Join
variable (db : Database) (source : String) (j : Join)

/-- The row with a record of the joined relation. -/
def attach (row : JoinedRow) (r : Record) : JoinedRow :=
  Function.update row j.scopeName (some r)

/-- The join pairs the row with the record. -/
def pairs (row : JoinedRow) (r : Record) : Bool :=
  j.condition.holds (db.scope source (j.attach row r))

/-- The row with each of its partners; without one it is padded if the kind keeps it. -/
def extend (row : JoinedRow) : List JoinedRow :=
  match (db.relation j.relation).filter (j.pairs db source row) with
  | [] => if j.kind.keepsLeft then [row] else []
  | partners => partners.map (j.attach row)

/-- The records without a partner, if the kind keeps them. -/
def alone (rows : List JoinedRow) : List JoinedRow :=
  if j.kind.keepsRight then
    ((db.relation j.relation).filter fun r => !rows.any (j.pairs db source · r)).map
      (JoinedRow.single j.scopeName)
  else []

/-- The rows after the join: each with its partners, then the records without one. -/
def apply (rows : List JoinedRow) : List JoinedRow :=
  rows.flatMap (j.extend db source) ++ j.alone db source rows

end Join

/-- The rows after several joins, from left to right. -/
def joinAll (db : Database) (source : String) (joins : List Join) (rows : List JoinedRow) :
    List JoinedRow :=
  joins.foldl (fun rows j => j.apply db source rows) rows

/-! ## Groups and output -/

/-- A group of rows, and the row that columns outside aggregates are read in. -/
structure Group where
  members : List Scope
  lead : Scope

/-- The value of a field in a group. -/
def Field.value (f : Field) (g : Group) : Value :=
  f.expr.value g.members g.lead

/-- The record that a group gives. -/
def Group.record (fields : List Field) (g : Group) : Record :=
  fields.map fun f => (f.name.identifier, f.value g)

/-- One group for each value of the first field, in the order in which they occur. -/
def groupedByFirst (fields : List Field) (rows : List Scope) : List Group :=
  match fields with
  | [] => []
  | f :: _ =>
    let key (σ : Scope) := f.value ⟨[σ], σ⟩
    (rows.map key).dedup.flatMap fun k =>
      match rows.filter (key · == k) with
      | [] => []
      | σ :: more => [⟨σ :: more, σ⟩]

/-- All rows in one group if a field ranges over a group, else each row on its own.  `absent` is
    the scope to read in where there is no row. -/
def ungrouped (fields : List Field) (absent : Scope) (rows : List Scope) : List Group :=
  if fields.any (·.expr.isAggregate) then [⟨rows, rows.headD absent⟩]
  else rows.map fun σ => ⟨[σ], σ⟩

/-- `ORDER BY`: earlier instants first, NULL last. -/
def Record.notAfter (r s : Record) : Prop :=
  ∀ x, s.get timeColumn = some x → ∃ y, r.get timeColumn = some y ∧ y ≤ x

instance : DecidableRel Record.notAfter := fun r s =>
  match hs : s.get timeColumn, hr : r.get timeColumn with
  | none, _ => .isTrue fun x hx => by simp [hs] at hx
  | some x, none => .isFalse fun h => by simpa [hr] using h x hs
  | some x, some y => decidable_of_iff (y ≤ x) (by simp [Record.notAfter, hs, hr])

namespace Clause

/-- The clause keeps a row in the scope `σ`; clauses that say nothing about single rows keep all. -/
def keeps (db : Database) (σ : Scope) : Clause → Bool
  | verbatim t => (σ.text t).isTrue
  | conjunction | groupedByFirst | orderedByTime => true
  | device id => σ.column deviceColumn == some (id : ℚ)
  | inWindow w => (σ.column timeColumn).any (db.inWindow w)
  | timePresent none => (σ.column timeColumn).isSome
  | timePresent (some r) => (σ.ref r timeColumn).isSome
  | fromFirst r =>
    let first := smallest ((db.relation r).map (·.get timeColumn))
    first.isSome && (σ.column timeColumn).isSome && !(σ.column timeColumn).before first
  | beforeLast r edge margin =>
    (σ.column timeColumn).before
      (Option.map₂ (· + ·) (largest ((db.relation r).map (·.get edge)))
        (σ.text (intervalText margin)))

end Clause

/-- What a statement or a chain gives for its joined rows: some are kept, grouped, computed and put
    in order. -/
def output (db : Database) (source : String) (fields : List Field) (clauses : List Clause)
    (rows : List JoinedRow) : List Record :=
  let scopes := (rows.map (db.scope source)).filter fun σ => clauses.all (·.keeps db σ)
  let groups :=
    if clauses.contains .groupedByFirst then groupedByFirst fields scopes
    else ungrouped fields (db.scope source fun _ => none) scopes
  let records := groups.map (Group.record fields)
  if clauses.contains .orderedByTime then records.insertionSort Record.notAfter else records

/-! ## Statements -/

namespace Chain

/-- The joined rows of a chain. -/
def rows (db : Database) (c : Chain) : List JoinedRow :=
  joinAll db c.anchor c.joins ((db.relation c.anchor).map (JoinedRow.single c.anchor))

/-- The records of a chain. -/
def records (db : Database) (c : Chain) : List Record :=
  output db c.anchor c.fields [] (c.rows db)

end Chain

namespace Source

/-- The name under which the rows of a source are in scope. -/
def scopeName : Source → String
  | relation t => t
  | derived _ name | buckets _ _ _ name => name

/-- The records of a source; a bucket has its boundary as the only column. -/
def records (db : Database) : Source → List Record
  | relation t => db.relation t
  | derived chain _ => chain.records db
  | buckets unit step w name => (db.series unit step w).map fun t => [(name, some t)]

end Source

namespace Statement

/-- The records of a statement whose common table expressions are bound. -/
def execute (db : Database) (fields : List Field) (source : Option Source) (joins : List Join)
    (clauses : List Clause) : List Record :=
  match source with
  | none => output db "" fields clauses [fun _ => none]
  | some s =>
    output db s.scopeName fields clauses
      (joinAll db s.scopeName joins ((s.records db).map (JoinedRow.single s.scopeName)))

mutual

/-- The records that a statement gives. -/
def run (db : Database) : Statement → List Record
  | ⟨_, ctes, fields, source, joins, clauses⟩ =>
    execute (bindAll db ctes) fields source joins clauses
termination_by structural s => s

/-- The database in which common table expressions are bound to their records, each of which sees
    those before it. -/
def bindAll (db : Database) : List Statement → Database
  | [] => db
  | s :: more =>
    match s.name with
    | none => bindAll db more
    | some n => bindAll (db.bind n (s.run db)) more
termination_by structural l => l

end

end Statement

end EnergyQuery.Sql
