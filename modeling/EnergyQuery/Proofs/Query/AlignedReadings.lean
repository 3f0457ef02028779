/-
  The rows of an alignment, reading by reading.

  An alignment joins its relations on the time of the first one.  Where no
  relation has two readings of one time, no reading is lost and none occurs
  twice, each row has the time of all its readings, and the order of the relations
  after the first does not matter.  Staged scans drop what has no time, so every
  row of theirs has one, and selecting the rows with a time drops nothing.

  * `Alignment.OnTime`: how the relations are joined; `Alignment.rows` are the
    joined rows, `Alignment.timeIn` what the time column is in one of them;
  * `DeviceScan`: a device and the quantities that are staged for it;
  * `Alignment.readings_once`: all of this.
-/
import EnergyQuery.Proofs.Query.AlignedSum
import EnergyQuery.Proofs.Query.WindowTotals
import EnergyQuery.Proofs.Sql.JoinedReadings

namespace EnergyQuery

open Sql

/-! ## Rows -/

namespace Alignment

/-- Every relation is joined to the first one, on equal times. -/
def OnTime (x : Alignment) : Prop :=
  x.joins = x.others.map (Join.onTime x.anchor)

/-- The joined rows, before any column is computed over them. -/
def rows (db : Database) (x : Alignment) : List JoinedRow :=
  x.inner.rows db

/-- The time column in a joined row. -/
def timeIn (db : Database) (x : Alignment) (row : JoinedRow) : Value :=
  (timeOf x.anchor x.others).value ⟨[db.scope x.anchor row], db.scope x.anchor row⟩

variable {db : Database} {x z : Alignment} {row : JoinedRow} {r : String} {y : Record}

theorem timeIn_eq : x.timeIn db row = row.instant x.relations :=
  value_timeOf

theorem rows_eq (hx : x.OnTime) :
    x.rows db = joinAll db x.anchor (x.others.map (Join.onTime x.anchor))
      ((db.relation x.anchor).map (JoinedRow.single x.anchor)) := by
  rw [rows, Chain.rows, inner]
  dsimp only
  rw [hx]

/-- The devices of a family are joined on time. -/
theorem onTime_of_align {f : Family} {ids : List ℕ} {qs : List Quantity}
    (h : f.align ids qs = .ok x) : x.OnTime := by
  obtain ⟨id, rest, -, -, rfl⟩ := Family.align_eq_ok_iff.1 h
  rfl

/-- So are the devices of a combination. -/
theorem onTime_of_alignment {c : Combination} (h : c.alignment = .ok x) : x.OnTime := by
  obtain ⟨-, a, rs, -, rfl⟩ := Combination.alignment_eq_ok_iff.1 h
  rfl

/-! ## Readings of a row -/

/-- **The time column is the time of every reading in the row.** -/
theorem timeIn_eq_time (hx : x.OnTime) (hn : x.relations.Nodup) (h : row ∈ x.rows db)
    (hy : row r = some y) : x.timeIn db row = y.get timeColumn := by
  rw [rows_eq hx] at h
  rw [timeIn_eq]
  exact instant_eq_time hn h hy

/-- What a row holds is a reading of one of the relations. -/
theorem mem_relation_of_mem_rows (hx : x.OnTime) (hn : x.relations.Nodup) (h : row ∈ x.rows db)
    (hy : row r = some y) : r ∈ x.relations ∧ y ∈ db.relation r := by
  rw [rows_eq hx] at h
  have hr : r ∈ x.relations := by
    rcases mem_joinAll_onTime hn h with ⟨u, -, hrow⟩ | ⟨s, hs, u, -, rfl⟩
    · by_cases hra : r = x.anchor
      · exact hra ▸ List.mem_cons_self
      · exact List.mem_cons_of_mem _ (alongside_partner hra hrow hy).1
    · by_cases hrs : r = s
      · exact List.mem_cons_of_mem _ (hrs ▸ hs)
      · rw [JoinedRow.single_of_ne hrs] at hy
        simp at hy
  exact ⟨hr, (exists_joinAll_iff x.anchor hn hr).1 ⟨row, h, hy⟩⟩

/-- A time is missing only where a reading has none. -/
theorem timeIn_isSome_iff (hx : x.OnTime) (hn : x.relations.Nodup) :
    (∀ row ∈ x.rows db, (x.timeIn db row).isSome) ↔
      ∀ r ∈ x.relations, ∀ y ∈ db.relation r, (y.get timeColumn).isSome := by
  constructor
  · intro h r hr y hy
    obtain ⟨row, hrow, hry⟩ := (exists_joinAll_iff x.anchor hn hr).2 hy
    rw [← rows_eq hx] at hrow
    rw [← timeIn_eq_time hx hn hrow hry]
    exact h row hrow
  · intro h row hrow
    obtain ⟨r, hr, y, hy, hry⟩ := exists_reading hn (rows_eq hx ▸ hrow)
    rw [timeIn_eq_time hx hn hrow hry]
    exact h r hr y hy

/-- The order of the relations after the first changes neither the rows nor their times. -/
theorem perm_rows (hx : x.OnTime) (hn : x.relations.Nodup) (hu : db.OncePerInstant x.relations)
    (hz : z.OnTime) (ha : z.anchor = x.anchor) (hp : z.others.Perm x.others) :
    (z.rows db).Perm (x.rows db) ∧ ∀ row ∈ x.rows db, z.timeIn db row = x.timeIn db row := by
  have hzx : (z.rows db).Perm (x.rows db) := by
    rw [rows_eq hx, rows_eq hz, ha]
    exact (perm_joinAll_onTime hn hu hp.symm).symm
  refine ⟨hzx, fun row hrow => ?_⟩
  have hnz : z.relations.Nodup := by
    rw [relations, ha]
    exact (hp.cons _).nodup_iff.2 hn
  obtain ⟨r, -, y, -, hry⟩ := exists_reading hn (rows_eq hx ▸ hrow)
  rw [timeIn_eq_time hx hn hrow hry, timeIn_eq_time hz hnz (hzx.mem_iff.2 hrow) hry]

end Alignment

/-! ## Staged scans -/

/-- A device, and the quantities that are staged for it. -/
structure DeviceScan where
  family : Family
  quantities : List Quantity
  id : ℕ

namespace DeviceScan

/-- The scan of the device. -/
def statement (m : DeviceScan) : Statement :=
  m.family.staged m.quantities m.id

/-- The relation that the scan is staged under. -/
def relation (m : DeviceScan) : String :=
  m.family.relation m.id

/-- The device is one of a house, and what is staged has a value in each row. -/
def Instant (m : DeviceScan) : Prop :=
  m.family ∈ Family.all ∧ ∀ q ∈ m.quantities, m.family.Declares q ∧ q.isWindowTotal = false

instance {m : DeviceScan} : Decidable m.Instant :=
  inferInstanceAs (Decidable (_ ∧ _))

variable {m : DeviceScan} {l : List DeviceScan} {db : Database} {y : Record}

theorem Instant.not_aggregate (h : m.Instant) :
    ∀ q ∈ m.quantities, (m.family.catalogEntry q).expr.isAggregate = false := by
  intro q hq
  rw [Family.isAggregate_catalogEntry h.1 (h.2 q hq).1, (h.2 q hq).2]

/-- The window keeps the rows with a time. -/
theorem time_isSome_of_mem_run (h : m.Instant) (hy : y ∈ m.statement.run db) :
    (y.get timeColumn).isSome := by
  rw [statement, Family.run_staged h.not_aggregate] at hy
  obtain ⟨σ, hσ, rfl⟩ := List.mem_map.1 hy
  have hkept : (σ.column timeColumn).any (db.inWindow .selected) = true := by
    have hclauses := (List.mem_filter.1 hσ).2
    simp only [List.all_cons, Bool.and_eq_true] at hclauses
    exact hclauses.2.2.1
  have hget : Record.get (rowRecord (Field.time :: m.quantities.map fun q =>
      (m.family.catalogEntry q).field) σ) timeColumn = σ.column timeColumn := by
    exact get_record_cons_self (f := Field.time)
  rw [hget]
  cases hcolumn : σ.column timeColumn with
  | none => simp [hcolumn] at hkept
  | some t => rfl

/-- Every staged relation holds the rows of its scan. -/
theorem relation_bindAll (hl : ∀ m ∈ l, m.Instant) (hn : (l.map relation).Nodup) (hm : m ∈ l) :
    (Statement.bindAll db (l.map statement)).relation m.relation = m.statement.run db := by
  have hname : ∀ m ∈ l, m.statement.name = some m.relation := fun _ _ => rfl
  have hreads : ∀ m ∈ l, ∀ k ∈ l, ∀ db rs,
      m.statement.run (db.bind k.relation rs) = m.statement.run db := by
    intro m hm k _ db rs
    exact Family.run_staged_bind (hl m hm).not_aggregate (Family.relation_ne_table (hl m hm).1)
  exact Statement.relation_bindAll hname hn hreads hm

theorem time_isSome_of_staged (hl : ∀ m ∈ l, m.Instant) (hn : (l.map relation).Nodup) :
    ∀ r ∈ l.map relation, ∀ y ∈ (Statement.bindAll db (l.map statement)).relation r,
      (y.get timeColumn).isSome := by
  intro r hr y hy
  obtain ⟨m, hm, rfl⟩ := List.mem_map.1 hr
  rw [relation_bindAll hl hn hm] at hy
  exact time_isSome_of_mem_run (hl m hm) hy

end DeviceScan

/-! ## Selecting the rows with a time -/

theorem Sql.length_output {db : Database} {source : String} {fields : List Field}
    {clauses : List Clause} {rows : List JoinedRow} (hg : .groupedByFirst ∉ clauses)
    (hf : ∀ f ∈ fields, f.expr.isAggregate = false) :
    (output db source fields clauses rows).length = (keptScopes db source clauses rows).length := by
  have hgroup : clauses.contains .groupedByFirst = false := by simpa using hg
  have hrows : fields.any (·.expr.isAggregate) = false := by simpa using hf
  simp only [output, ungrouped, hgroup, hrows, Bool.false_eq_true, if_false]
  split
  · rw [List.length_insertionSort, List.length_map, List.length_map, keptScopes]
  · rw [List.length_map, List.length_map, keptScopes]

namespace Alignment
variable {db : Database} {x : Alignment}

/-- The first column of a record of the chain is the time of the row. -/
theorem time_rowRecord {row : JoinedRow} :
    (rowRecord x.inner.fields (db.scope x.inner.anchor row)).get timeColumn = x.timeIn db row := by
  have hname : (timeOf x.anchor x.others).name.identifier = timeColumn :=
    congrArg Name.identifier name_timeOf
  rw [← hname]
  exact get_record_cons_self

theorem not_aggregate_inner (hf : ∀ f ∈ x.fields, f.expr.isAggregate = false) :
    ∀ f ∈ x.inner.fields, f.expr.isAggregate = false := by
  intro f hmem
  rcases List.mem_cons.1 hmem with rfl | hmem
  · exact isAggregate_timeOf
  · exact hf f hmem

/-- The columns that are selected by their names. -/
def outer (x : Alignment) : List Field :=
  .time :: x.fields.map fun f => .ofName f.name

theorem not_aggregate_outer : ∀ f ∈ x.outer, f.expr.isAggregate = false := by
  intro f hmem
  rcases List.mem_cons.1 hmem with rfl | hmem
  · rfl
  · obtain ⟨g, -, rfl⟩ := List.mem_map.1 hmem
    rfl

/-- The statement selects from the records of the derived table. -/
theorem run_statement : x.statement.run db =
    output (Statement.bindAll db x.staged) derivedName x.outer [.timePresent none, .orderedByTime]
      ((x.inner.records (Statement.bindAll db x.staged)).map (JoinedRow.single derivedName)) := by
  rw [statement, Statement.timePresent, Statement.ordered, Statement.restrict, Statement.restrict,
    Statement.run]
  rfl

/-- The statement gives a record for each joined row if all of them have a time. -/
theorem length_run_statement (hf : ∀ f ∈ x.fields, f.expr.isAggregate = false)
    (htime : ∀ row ∈ x.rows (Statement.bindAll db x.staged),
      (x.timeIn (Statement.bindAll db x.staged) row).isSome) :
    (x.statement.run db).length = (x.rows (Statement.bindAll db x.staged)).length := by
  have hkept : ∀ σ ∈ ((x.inner.records (Statement.bindAll db x.staged)).map
      (JoinedRow.single derivedName)).map ((Statement.bindAll db x.staged).scope derivedName),
      [Clause.timePresent none, .orderedByTime].all
        (·.keeps (Statement.bindAll db x.staged) σ) = true := by
    intro σ hσ
    obtain ⟨_, hrow, rfl⟩ := List.mem_map.1 hσ
    obtain ⟨y, hy, rfl⟩ := List.mem_map.1 hrow
    rw [records_chain (not_aggregate_inner hf)] at hy
    obtain ⟨row, hmem, rfl⟩ := List.mem_map.1 hy
    have hpresent := htime row hmem
    rw [← time_rowRecord] at hpresent
    simpa [Clause.keeps, Database.scope, JoinedRow.ref] using hpresent
  rw [run_statement, length_output (by simp) not_aggregate_outer, keptScopes,
    List.filter_eq_self.2 hkept, List.length_map, List.length_map,
    records_chain (not_aggregate_inner hf), List.length_map]
  rfl

/-- **No reading of an alignment is lost, none occurs twice, and only the first relation's place
    matters.**  Where no relation has two readings of one time:
    each relation's readings stand in the rows, each in one of them;
    a row holds some reading, and its time column is the time of every reading in it, so it is
    missing only for readings without a time;
    other orders of the relations after the first give the same rows, with the same times.
    Of staged scans every row has a time, and the statement gives a record for each of them. -/
theorem readings_once (x : Alignment) (hx : x.OnTime) (hn : x.relations.Nodup) (db : Database)
    (hu : db.OncePerInstant x.relations) :
    (∀ r ∈ x.relations, ((x.rows db).filterMap (· r)).Perm (db.relation r)) ∧
    (∀ row ∈ x.rows db, (∃ r y, row r = some y) ∧ ∀ r y, row r = some y →
      r ∈ x.relations ∧ y ∈ db.relation r ∧ x.timeIn db row = y.get timeColumn) ∧
    ((∀ row ∈ x.rows db, (x.timeIn db row).isSome) ↔
      ∀ r ∈ x.relations, ∀ y ∈ db.relation r, (y.get timeColumn).isSome) ∧
    (∀ z : Alignment, z.OnTime → z.anchor = x.anchor → z.others.Perm x.others →
      (z.rows db).Perm (x.rows db) ∧ ∀ row ∈ x.rows db, z.timeIn db row = x.timeIn db row) ∧
    ∀ (l : List DeviceScan) (tables : Database), (∀ m ∈ l, m.Instant) →
      x.staged = l.map DeviceScan.statement → x.relations = l.map DeviceScan.relation →
      db = Statement.bindAll tables x.staged →
      (∀ row ∈ x.rows db, (x.timeIn db row).isSome) ∧
        ((∀ f ∈ x.fields, f.expr.isAggregate = false) →
          (x.statement.run tables).length = (x.rows db).length) := by
  refine ⟨fun r hr => ?_, fun row hrow => ⟨?_, fun r y hry => ?_⟩, timeIn_isSome_iff hx hn,
    fun z hz ha hp => perm_rows hx hn hu hz ha hp, ?_⟩
  · rw [rows_eq hx]
    exact perm_readings hn hu hr
  · obtain ⟨r, -, y, -, hry⟩ := exists_reading hn (rows_eq hx ▸ hrow)
    exact ⟨r, y, hry⟩
  · obtain ⟨hr, hy⟩ := mem_relation_of_mem_rows hx hn hrow hry
    exact ⟨hr, hy, timeIn_eq_time hx hn hrow hry⟩
  · rintro l tables hl hstaged hrelations rfl
    have htime : ∀ row ∈ x.rows (Statement.bindAll tables x.staged),
        (x.timeIn (Statement.bindAll tables x.staged) row).isSome := by
      rw [timeIn_isSome_iff hx hn, hstaged, hrelations]
      exact DeviceScan.time_isSome_of_staged hl (hrelations ▸ hn)
    exact ⟨htime, fun hf => length_run_statement hf htime⟩

/-- Readings of three solar inverters, one of which also has a row without a time. -/
def inverterReadings : Database where
  relation r :=
    if r = Family.solar.table then
      [[(deviceColumn, some 1), (timeColumn, some 0), ("power_w", some 100)],
        [(deviceColumn, some 1), (timeColumn, none), ("power_w", some 250)],
        [(deviceColumn, some 8), (timeColumn, some 60), ("power_w", some 300)],
        [(deviceColumn, some 9), (timeColumn, some 60), ("power_w", some 400)]]
    else []
  inWindow _ _ := true
  series _ _ _ := []
  boundary _ t := t
  text _ := none

/-- The three inverters in two orders, and one of them beside a generator. -/
theorem readings_once_inverters :
    ∃ x z y, Family.solar.align [1, 8, 9] [.power] = .ok x ∧
      Family.solar.align [1, 9, 8] [.power] = .ok z ∧
      (Production.combination [8] [1] .power).alignment = .ok y ∧
      ((x.rows (Statement.bindAll inverterReadings x.staged)).filterMap (· "solar9")).Perm
        [[("time", some 60), ("power_w", some 400)]] ∧
      (z.rows (Statement.bindAll inverterReadings x.staged)).Perm
        (x.rows (Statement.bindAll inverterReadings x.staged)) ∧
      (x.statement.run inverterReadings).length = 3 ∧
      ((y.rows (Statement.bindAll inverterReadings y.staged)).filterMap (· "solar8")).Perm
        [[("time", some 60), ("power_w", some 300)]] := by
  have hx : Family.solar.align [1, 8, 9] [.power] =
      .ok (Family.solar.aligned 1 [8, 9] [.power]) := rfl
  have hz : Family.solar.align [1, 9, 8] [.power] =
      .ok (Family.solar.aligned 1 [9, 8] [.power]) := rfl
  have hy : (Production.combination [8] [1] .power).alignment =
      .ok ((Production.combination [8] [1] .power).aligned "solar8" ["generator1"]) := rfl
  obtain ⟨hreadings, -, -, horder, hstaged⟩ := readings_once _ (onTime_of_align hx) (by decide)
    (Statement.bindAll inverterReadings (Family.solar.aligned 1 [8, 9] [.power]).staged)
    (oncePerInstant_of_length_le_one (by decide +kernel))
  obtain ⟨hproduction, -⟩ := readings_once _ (onTime_of_alignment hy) (by decide)
    (Statement.bindAll inverterReadings
      ((Production.combination [8] [1] .power).aligned "solar8" ["generator1"]).staged)
    (oncePerInstant_of_length_le_one (by decide +kernel))
  refine ⟨_, _, _, hx, hz, hy, (hreadings "solar9" (by decide)).trans ?_,
    (horder _ (onTime_of_align hz) rfl (by decide)).1, ?_,
    (hproduction "solar8" (by decide)).trans ?_⟩
  · exact .of_eq (by decide +kernel)
  · obtain ⟨-, hlength⟩ := hstaged [⟨.solar, [.power], 1⟩, ⟨.solar, [.power], 8⟩,
      ⟨.solar, [.power], 9⟩] inverterReadings (by decide) rfl rfl rfl
    rw [hlength (by simp [Family.aligned])]
    decide +kernel
  · exact .of_eq (by decide +kernel)

end Alignment

end EnergyQuery
