/-
  Statements over calendar buckets give the readings of the whole table.

  Readings are staged from the instant of the first bucket until one hour after
  the last instant that is looked up.  These bounds cut off nothing of an hour
  that begins at an instant between the two, and no hour is staged twice.

  * `Family.reading`: the largest value of a device in an hour, over all rows of
    the table;
  * `Buckets.rowsWith_staged`: the rows of an hour that is looked up are staged;
  * `Buckets.runFrom_selected`: each bucket gives one row, over the readings at
    its instants;
  * `Buckets.rows_unpruned`: the totals and the readings of all buckets.
-/
import EnergyQuery.Proofs.Query.BucketScoping
import EnergyQuery.Proofs.Sql.Grouping
import EnergyQuery.Proofs.Sql.Lookup
import EnergyQuery.Proofs.Sql.Ordering
import Mathlib.Data.Rat.Floor

namespace EnergyQuery

open Sql

/-- The calendar cuts time into hours, and knows how long an hour is. -/
structure Sql.Database.Hourly (db : Database) (hour : ℚ) : Prop where
  span : db.text (intervalText "1 hour") = some hour
  start_le : ∀ t, db.boundary .hour t ≤ t
  lt_next : ∀ t, t < db.boundary .hour t + hour

/-! ## Readings -/

namespace Family

/-- All rows of the table. -/
def tableRows (f : Family) (db : Database) : List Scope :=
  ((db.relation f.table).map (JoinedRow.single f.table)).map (db.scope f.table)

/-- The rows of a device in the hour that begins at `u`. -/
def hourRows (f : Family) (db : Database) (id : ℕ) (u : ℚ) : List Scope :=
  (f.tableRows db).filter fun σ => σ.column deviceColumn == some (id : ℚ) &&
    (σ.column timeColumn).map (db.boundary .hour) == some u

/-- The largest value of a device in the hour that begins at `u`. -/
def reading (f : Family) (db : Database) (id : ℕ) (e : Entry) (u : ℚ) : Value :=
  largest ((f.hourRows db id u).map fun σ => e.expr.value [σ] σ)

/-- The difference between the readings at two instants. -/
def change (f : Family) (db : Database) (id : ℕ) (e : Entry) (p : ℚ × ℚ) : Value :=
  Option.map₂ (· - ·) (f.reading db id e p.2) (f.reading db id e p.1)

end Family

/-! ## Stages -/

namespace Buckets
variable {b : Buckets} {f : Family} {id : ℕ} {ids : List ℕ} {e : Entry} {q : Quantity}
  {fields : List Field} {db : Database} {hour : ℚ} {bs : List (ℚ × ℚ)} {p : ℚ × ℚ} {σ : Scope}

/-- The record of a bucket, given its own instant and the following one. -/
def record (b : Buckets) (p : ℚ × ℚ) : Record :=
  (timeColumn, some p.1) :: if b.hasNext then [(nextColumn, some p.2)] else []

/-- The instant in the column `edge`. -/
def last (b : Buckets) (p : ℚ × ℚ) : ℚ :=
  if b.hasNext then p.2 else p.1

theorem get_time_record : (b.record p).get timeColumn = some p.1 := by
  simp [record, Record.get]

theorem get_next_record (h : b.hasNext = true) : (b.record p).get nextColumn = some p.2 := by
  simp [record, h, Record.get, nextColumn, timeColumn, List.lookup_cons]

theorem get_edge_record : (b.record p).get b.edge = some (b.last p) := by
  cases h : b.hasNext with
  | true => simp [edge, last, h, get_next_record h]
  | false => simp [edge, last, h, get_time_record]

/-- The conditions on the staged readings of a device, and their grouping by the hour. -/
def spanClauses (b : Buckets) (id : ℕ) : List Clause :=
  [.device id, .conjunction, .fromFirst relation, .conjunction,
    .beforeLast relation b.edge "1 hour", .groupedByFirst]

/-- The rows of a device over the span that the buckets look up. -/
def spanRows (b : Buckets) (f : Family) (db : Database) (id : ℕ) : List Scope :=
  keptScopes db f.table (b.spanClauses id) ((db.relation f.table).map (JoinedRow.single f.table))

/-- The hour of a reading. -/
def hourField : Field :=
  ⟨.truncated .hour (.column timeColumn), timeColumn⟩

theorem run_stage :
    (b.stage f id e).run db =
      groupRecords hourField [⟨.max e.expr, e.column⟩] (b.spanRows f db id) := by
  rw [stage, Family.scan, Statement.restrict, Statement.run]
  rfl

theorem keeps_fromFirst (hs : db.relation relation = bs.map b.record) (hp : p ∈ bs) {x : ℚ}
    (hx : σ.column timeColumn = some x) (hle : p.1 ≤ x) :
    (Clause.fromFirst relation).keeps db σ = true := by
  have hmem : some p.1 ∈ (db.relation relation).map (·.get timeColumn) := by
    rw [hs, List.map_map]
    exact List.mem_map.2 ⟨p, hp, get_time_record⟩
  cases hfirst : smallest ((db.relation relation).map (·.get timeColumn)) with
  | none => exact absurd hmem (smallest_eq_none_iff.1 hfirst _)
  | some m =>
    have hm : m ≤ x := ((smallest_eq_some_iff.1 hfirst).2 _ hmem).trans hle
    simp [Clause.keeps, hfirst, hx, Value.before, hm]

theorem keeps_beforeLast (hs : db.relation relation = bs.map b.record) (hp : p ∈ bs) {x : ℚ}
    (hx : σ.column timeColumn = some x) (hspan : σ.text (intervalText "1 hour") = some hour)
    (hlt : x < b.last p + hour) :
    (Clause.beforeLast relation b.edge "1 hour").keeps db σ = true := by
  have hmem : some (b.last p) ∈ (db.relation relation).map (·.get b.edge) := by
    rw [hs, List.map_map]
    exact List.mem_map.2 ⟨p, hp, get_edge_record⟩
  cases hlast : largest ((db.relation relation).map (·.get b.edge)) with
  | none => exact absurd hmem (largest_eq_none_iff.1 hlast _)
  | some m =>
    have hm : b.last p ≤ m := (largest_eq_some_iff.1 hlast).2 _ hmem
    have hxm : x < m + hour := by linarith
    simp [Clause.keeps, hlast, hx, hspan, Value.before, hxm]

theorem all_spanClauses :
    (b.spanClauses id).all (·.keeps db σ) =
      (σ.column deviceColumn == some (id : ℚ) && ((Clause.fromFirst relation).keeps db σ &&
        (Clause.beforeLast relation b.edge "1 hour").keeps db σ)) := by
  simp [spanClauses, Clause.keeps]

/-- **The rows of an hour that is looked up are staged**: the bounds of the span cut none of them
    off. -/
theorem rowsWith_staged (hh : db.Hourly hour) (hs : db.relation relation = bs.map b.record)
    (hp : p ∈ bs) {u : ℚ} (hfrom : p.1 ≤ u) (hto : u ≤ b.last p) :
    rowsWith hourField (b.spanRows f db id) (some u) = f.hourRows db id u := by
  rw [rowsWith, spanRows, keptScopes, List.filter_filter]
  refine List.filter_congr fun σ hσ => ?_
  obtain ⟨row, -, rfl⟩ := List.mem_map.1 hσ
  have hvalue : hourField.valueIn (db.scope f.table row) =
      ((db.scope f.table row).column timeColumn).map (db.boundary .hour) := rfl
  rw [hvalue]
  by_cases h : ((db.scope f.table row).column timeColumn).map (db.boundary .hour) = some u
  -- A row of the hour lies in the span, as the beginning of the hour does, and its end.
  · obtain ⟨x, hx, hxu⟩ := Option.map_eq_some_iff.1 h
    have hle : p.1 ≤ x := hfrom.trans (hxu ▸ hh.start_le x)
    have hlt : x < b.last p + hour := by
      have hnext := hh.lt_next x
      rw [hxu] at hnext
      exact hnext.trans_le (by linarith)
    rw [all_spanClauses, keeps_fromFirst hs hp hx hle, keeps_beforeLast hs hp hx hh.span hlt, h,
      Bool.and_true, Bool.and_true, beq_self_eq_true, Bool.true_and, Bool.and_true]
  · rw [beq_false_of_ne h, Bool.false_and, Bool.and_false]

/-! ## Staged readings -/

/-- A stage reads its table and the buckets only. -/
theorem run_stage_bind {n : String} {rs : List Record} (htable : n ≠ f.table) (hn : n ≠ relation) :
    (b.stage f id e).run (db.bind n rs) = (b.stage f id e).run db := by
  have hrows : (db.bind n rs).relation f.table = db.relation f.table :=
    Function.update_of_ne htable.symm _ _
  have hbuckets : (db.bind n rs).relation relation = db.relation relation :=
    Function.update_of_ne hn.symm _ _
  have hspan : b.spanRows f (db.bind n rs) id = b.spanRows f db id := by
    rw [spanRows, spanRows, keptScopes, keptScopes, hrows]
    refine List.filter_congr fun σ _ => ?_
    rw [all_spanClauses, all_spanClauses]
    simp only [Clause.keeps, hbuckets]
  rw [run_stage, run_stage, hspan]

/-- The database with the buckets. -/
def bucketed (b : Buckets) (db : Database) (bs : List (ℚ × ℚ)) : Database :=
  db.bind relation (bs.map b.record)

theorem relation_bucketed : (b.bucketed db bs).relation relation = bs.map b.record :=
  Function.update_self relation _ db.relation

/-- The table of a family is read beside the buckets. -/
theorem hourRows_bucketed (hf : f ∈ Family.all) {u : ℚ} :
    f.hourRows (b.bucketed db bs) id u = f.hourRows db id u := by
  have hsamples : ∀ f ∈ Family.all, f.table ≠ relation := by decide
  have htable : (b.bucketed db bs).relation f.table = db.relation f.table :=
    Function.update_of_ne (hsamples f hf) _ _
  rw [Family.hourRows, Family.hourRows, Family.tableRows, Family.tableRows, htable]
  rfl

/-- The buckets, and the readings that are staged after them. -/
def bound (b : Buckets) (f : Family) (ids : List ℕ) (e : Entry) (db : Database)
    (bs : List (ℚ × ℚ)) : Database :=
  Statement.bindAll (b.bucketed db bs) (ids.map fun id => b.stage f id e)

theorem relation_ne : f.relation id ≠ relation :=
  Family.relation_ne_of_digitFree (by decide)

theorem relation_bound_buckets :
    (b.bound f ids e db bs).relation relation = bs.map b.record := by
  have hfree : relation ∉ ids.map f.relation := by
    intro h
    obtain ⟨id, -, hid⟩ := List.mem_map.1 h
    exact relation_ne hid
  rw [bound, Statement.relation_bindAll_of_not_mem (fun _ _ => rfl) hfree, relation_bucketed]

section
variable (hf : f ∈ Family.all) (hn : ids.Nodup) (hid : id ∈ ids)
include hf hn hid

theorem relation_bound :
    (b.bound f ids e db bs).relation (f.relation id) =
      groupRecords hourField [⟨.max e.expr, e.column⟩] (b.spanRows f (b.bucketed db bs) id) := by
  have hname : ∀ id ∈ ids, (b.stage f id e).name = some (f.relation id) := fun _ _ => rfl
  have hreads : ∀ i ∈ ids, ∀ j ∈ ids, ∀ db rs,
      (b.stage f i e).run (db.bind (f.relation j) rs) = (b.stage f i e).run db := by
    intro i _ j _ db rs
    exact run_stage_bind (Family.relation_ne_table hf) relation_ne
  rw [← run_stage]
  exact Statement.relation_bindAll hname (Family.nodup_map_relation hn) hreads hid

/-- The readings of a device are staged once an hour. -/
theorem oncePerInstant_bound : (b.bound f ids e db bs).OncePerInstant [f.relation id] :=
  oncePerInstant_of_grouped rfl rfl (relation_bound hf hn hid)

/-- **The reading at an instant that is looked up is that of the whole table.** -/
theorem bind_recordAt_bound (hh : db.Hourly hour) (he : e.expr.isAggregate = false)
    (hcolumn : e.column ≠ timeColumn) (hp : p ∈ bs) {u : ℚ} (hfrom : p.1 ≤ u)
    (hto : u ≤ b.last p) :
    ((b.bound f ids e db bs).recordAt (f.relation id) u).bind (·.get e.column) =
      f.reading db id e u := by
  have hhour : (b.bucketed db bs).Hourly hour := ⟨hh.span, hh.start_le, hh.lt_next⟩
  have hstaged : rowsWith hourField (b.spanRows f (b.bucketed db bs) id) (some u) =
      f.hourRows db id u := by
    rw [← hourRows_bucketed hf]
    exact rowsWith_staged hhour relation_bucketed hp hfrom hto
  rw [bind_recordAt_grouped rfl rfl (relation_bound hf hn hid) hcolumn he, hstaged, Family.reading]

end

/-! ## Lookups -/

/-- What is looked up for a device: its reading at a bucket's own instant, and at the following
    one. -/
def targets (b : Buckets) (f : Family) (id : ℕ) : List Lookup :=
  ⟨startOf f id, f.relation id, timeColumn⟩ ::
    if b.hasNext then [⟨nextOf f id, f.relation id, nextColumn⟩] else []

theorem lookups_eq : b.lookups f id = (b.targets f id).map (·.join relation) := by
  cases h : b.hasNext <;> simp [lookups, targets, h, lookup, Lookup.join]

theorem map_scope_targets : (b.targets f id).map (·.scope) = b.scopeNames f id := by
  cases h : b.hasNext <;> simp [targets, scopeNames, h]

theorem mem_targets_iff {l : Lookup} :
    l ∈ b.targets f id ↔ l = ⟨startOf f id, f.relation id, timeColumn⟩ ∨
      b.hasNext = true ∧ l = ⟨nextOf f id, f.relation id, nextColumn⟩ := by
  cases h : b.hasNext <;> simp [targets, h]

/-- The row of a bucket, with the readings of all devices at its instants. -/
def rowOf (b : Buckets) (f : Family) (ids : List ℕ) (e : Entry) (db : Database)
    (bs : List (ℚ × ℚ)) (p : ℚ × ℚ) : JoinedRow :=
  (b.bound f ids e db bs).lookedUp relation (ids.flatMap (b.targets f)) (b.record p)

/-- What the computed columns of a bucket are read in. -/
def scopeOf (b : Buckets) (f : Family) (ids : List ℕ) (e : Entry) (db : Database)
    (bs : List (ℚ × ℚ)) (p : ℚ × ℚ) : Scope :=
  (b.bound f ids e db bs).scope relation (b.rowOf f ids e db bs p)

theorem ref_scopeOf {r n : String} :
    (b.scopeOf f ids e db bs p).ref r n = (b.rowOf f ids e db bs p r).bind (·.get n) := rfl

theorem nodup_targets (hn : ids.Nodup) :
    (relation :: (ids.flatMap (b.targets f)).map (·.scope)).Nodup := by
  have hscopes : (ids.flatMap (b.targets f)).map (·.scope) = ids.flatMap (b.scopeNames f) := by
    rw [List.map_flatMap]
    exact List.flatMap_congr fun id _ => map_scope_targets
  rw [hscopes]
  exact nodup_scopeNames hn

section
variable (hf : f ∈ Family.all) (hn : ids.Nodup)
include hf hn

/-- **Each bucket grows into one row.** -/
theorem joinAll_selected :
    joinAll (b.bound f ids e db bs) relation (ids.flatMap (b.lookups f))
        (((b.bound f ids e db bs).relation relation).map (JoinedRow.single relation)) =
      bs.map (b.rowOf f ids e db bs) := by
  have hjoins : ids.flatMap (b.lookups f) = (ids.flatMap (b.targets f)).map (·.join relation) := by
    rw [List.map_flatMap]
    exact List.flatMap_congr fun id _ => lookups_eq
  have hu : (b.bound f ids e db bs).OncePerInstant
      ((ids.flatMap (b.targets f)).map (·.relation)) := by
    intro r hr
    obtain ⟨l, hl, rfl⟩ := List.mem_map.1 hr
    obtain ⟨id, hid, hl⟩ := List.mem_flatMap.1 hl
    obtain rfl | ⟨-, rfl⟩ := mem_targets_iff.1 hl
    all_goals exact oncePerInstant_bound hf hn hid _ (List.mem_singleton_self _)
  rw [hjoins, joinAll_lookups (nodup_targets hn) hu, relation_bound_buckets, List.map_map]
  rfl

section
variable (hid : id ∈ ids) (hh : db.Hourly hour) (he : e.expr.isAggregate = false)
  (hcolumn : e.column ≠ timeColumn) (hp : p ∈ bs) (hle : p.1 ≤ p.2)
include hid hh he hcolumn hp hle

theorem ref_startOf :
    (b.scopeOf f ids e db bs p).ref (startOf f id) e.column = f.reading db id e p.1 := by
  have hmem : ⟨startOf f id, f.relation id, timeColumn⟩ ∈ ids.flatMap (b.targets f) :=
    List.mem_flatMap.2 ⟨id, hid, mem_targets_iff.2 (.inl rfl)⟩
  have hlast : p.1 ≤ b.last p := by
    unfold last
    split
    · exact hle
    · exact le_rfl
  rw [ref_scopeOf, rowOf, lookedUp_scope (nodup_targets hn) hmem, Lookup.found, get_time_record,
    Option.bind_some, bind_recordAt_bound hf hn hid hh he hcolumn hp le_rfl hlast]

theorem ref_nextOf (hnext : b.hasNext = true) :
    (b.scopeOf f ids e db bs p).ref (nextOf f id) e.column = f.reading db id e p.2 := by
  have hmem : ⟨nextOf f id, f.relation id, nextColumn⟩ ∈ ids.flatMap (b.targets f) :=
    List.mem_flatMap.2 ⟨id, hid, mem_targets_iff.2 (.inr ⟨hnext, rfl⟩)⟩
  have hlast : p.2 ≤ b.last p := by rw [last, if_pos hnext]
  rw [ref_scopeOf, rowOf, lookedUp_scope (nodup_targets hn) hmem, Lookup.found,
    get_next_record hnext, Option.bind_some,
    bind_recordAt_bound hf hn hid hh he hcolumn hp hle hlast]

theorem value_difference (hnext : b.hasNext = true) {g : List Scope} :
    (difference f id e).value g (b.scopeOf f ids e db bs p) = f.change db id e p := by
  rw [Family.change, ← ref_startOf hf hn hid hh he hcolumn hp hle,
    ← ref_nextOf hf hn hid hh he hcolumn hp hle hnext]
  rfl

end

end

/-! ## Rows -/

/-- A row for each bucket, with its instant and further columns, in the order of the instants. -/
def rowEach (bs : List (ℚ × ℚ)) (columns : ℚ × ℚ → Record) : List Record :=
  (bs.map fun p => (timeColumn, some p.1) :: columns p).insertionSort Record.notAfter

/-- Only the columns of the given buckets matter. -/
theorem rowEach_congr {columns columns' : ℚ × ℚ → Record}
    (h : ∀ p ∈ bs, columns p = columns' p) : rowEach bs columns = rowEach bs columns' := by
  have hrows : (bs.map fun p => (timeColumn, some p.1) :: columns p) =
      bs.map fun p => (timeColumn, some p.1) :: columns' p :=
    List.map_congr_left fun p hp => by rw [h p hp]
  rw [rowEach, rowEach, hrows]

/-- The instant of a bucket in its row. -/
theorem ref_time : (b.scopeOf f ids e db bs p).ref relation timeColumn = some p.1 := by
  rw [ref_scopeOf, rowOf, lookedUp_anchor, Option.bind_some, get_time_record]

/-- **Each bucket gives one record.** -/
theorem runFrom_selected (hf : f ∈ Family.all) (hn : ids.Nodup)
    (hfields : ∀ x ∈ fields, x.expr.isAggregate = false) :
    (b.selected f ids e fields).runFrom db (bs.map b.record) =
      rowEach bs fun p => rowRecord fields (b.scopeOf f ids e db bs p) := by
  have hrows : ∀ x ∈ ⟨.ref relation timeColumn, timeColumn⟩ :: fields,
      x.expr.isAggregate = false := by
    intro x hx
    rcases List.mem_cons.1 hx with rfl | hx
    · rfl
    · exact hfields x hx
  -- Every bucket has its instant, so that the filter on the time drops none.
  have hkept : keptScopes (b.bound f ids e db bs) relation
      [.timePresent (some relation), .orderedByTime] (bs.map (b.rowOf f ids e db bs)) =
        (bs.map (b.rowOf f ids e db bs)).map ((b.bound f ids e db bs).scope relation) := by
    refine List.filter_eq_self.2 fun σ hσ => ?_
    obtain ⟨_, hrow, rfl⟩ := List.mem_map.1 hσ
    obtain ⟨p, -, rfl⟩ := List.mem_map.1 hrow
    have htime : (b.scopeOf f ids e db bs p).ref relation timeColumn = some p.1 := ref_time
    rw [scopeOf] at htime
    simp [Clause.keeps, htime]
  have hrun : (b.selected f ids e fields).runFrom db (bs.map b.record) =
      output (b.bound f ids e db bs) relation (⟨.ref relation timeColumn, timeColumn⟩ :: fields)
        [.timePresent (some relation), .orderedByTime]
        (joinAll (b.bound f ids e db bs) relation (ids.flatMap (b.lookups f))
          (((b.bound f ids e db bs).relation relation).map (JoinedRow.single relation))) := rfl
  rw [hrun, joinAll_selected hf hn, output_ordered (by simp) (by simp) hrows, hkept, List.map_map,
    List.map_map]
  refine congrArg (List.insertionSort Record.notAfter) (List.map_congr_left fun p _ => ?_)
  have htime : (b.scopeOf f ids e db bs p).ref relation timeColumn = some p.1 := ref_time
  rw [← htime]
  rfl

section
variable {x : ℕ → Expr} {v : ℕ → ℚ × ℚ → Value} (hf : f ∈ Family.all) (hn : ids.Nodup)
  (hx : ∀ id, (x id).isAggregate = false)
  (hv : ∀ p ∈ bs, ∀ id ∈ ids,
    (x id).value [b.scopeOf f ids e db bs p] (b.scopeOf f ids e db bs p) = v id p)
include hf hn hx hv

/-- One column for each device. -/
theorem runFrom_perDevice {name : ℕ → Name} :
    (b.selected f ids e (ids.map fun id => ⟨x id, name id⟩)).runFrom db (bs.map b.record) =
      rowEach bs fun p => ids.map fun id => ((name id).identifier, v id p) := by
  have hfields : ∀ y ∈ ids.map fun id => (⟨x id, name id⟩ : Field), y.expr.isAggregate = false := by
    intro y hy
    obtain ⟨id, -, rfl⟩ := List.mem_map.1 hy
    exact hx id
  rw [runFrom_selected hf hn hfields]
  refine rowEach_congr fun p hp => ?_
  rw [rowRecord, Group.record, List.map_map]
  exact List.map_congr_left fun id hid => Prod.ext rfl (hv p hp id hid)

/-- One column for the sum over all devices, a missing one counting as zero. -/
theorem runFrom_sum {name : Name} (hids : ids ≠ []) :
    (b.selected f ids e [⟨.sum (ids.map fun id => .orZero (x id)), name⟩]).runFrom db
        (bs.map b.record) =
      rowEach bs fun p => [(name.identifier, some (ids.map fun id => (v id p).getD 0).sum)] := by
  have hfields : ∀ y ∈ [(⟨.sum (ids.map fun id => .orZero (x id)), name⟩ : Field)],
      y.expr.isAggregate = false := by
    intro y hy
    obtain rfl := List.mem_singleton.1 hy
    rw [Expr.sum, Expr.isAggregate_signedSum]
    simp [Expr.isAggregate, hx]
  rw [runFrom_selected hf hn hfields]
  refine rowEach_congr fun p hp => ?_
  have hterm : ∀ id ∈ ids, (Expr.orZero (x id)).value [b.scopeOf f ids e db bs p]
      (b.scopeOf f ids e db bs p) = some ((v id p).getD 0) := by
    intro id hid
    rw [Expr.value, hv p hp id hid]
  exact congrArg (fun v => [(_, v)]) (Expr.value_sum hids hterm)

end

/-- **Statements over buckets give one row for each of them**, in the order of their instants, with
    the readings that the whole table has at the instants: the span that is staged cuts off none
    that is looked up, and no lookup finds two. -/
theorem rows_unpruned (b : Buckets) (hf : f ∈ Family.all) (hids : ids ≠ []) (hn : ids.Nodup)
    (hd : f.Declares q) (hh : db.Hourly hour) (hle : ∀ p ∈ bs, p.1 ≤ p.2) :
    (∀ c, b.hasNext = true → q.counter = some c →
      (∃ s, b.totalEach f ids q = .ok s ∧
        s.runFrom db (bs.map b.record) = rowEach bs fun p => ids.map fun id =>
          ((f.deviceName id (f.catalogEntry q).column).identifier,
            f.change db id (f.catalogEntry c) p)) ∧
      ∃ s, b.total f ids q = .ok s ∧
        s.runFrom db (bs.map b.record) = rowEach bs fun p =>
          [((f.familyName (f.catalogEntry q).column).identifier,
            some (ids.map fun id => (f.change db id (f.catalogEntry c) p).getD 0).sum)]) ∧
    (q.isWindowTotal = false → ∃ s, b.readings f ids q = .ok s ∧
      s.runFrom db (bs.map b.record) = rowEach bs fun p => ids.map fun id =>
        ((f.deviceName id (f.catalogEntry q).column).identifier,
          f.reading db id (f.catalogEntry q) p.1)) := by
  constructor
  · intro c hnext hq
    obtain ⟨hc, -⟩ := Family.spanOf_catalogEntry hf hq hd
    have he : (f.catalogEntry c).expr.isAggregate = false := by
      rw [Family.isAggregate_catalogEntry hf hc, Quantity.isWindowTotal_counter hq]
    have hcolumn := Family.column_catalogEntry_ne_time hf hc
    have hchange : ∀ p ∈ bs, ∀ id ∈ ids, (difference f id (f.catalogEntry c)).value
        [b.scopeOf f ids (f.catalogEntry c) db bs p] (b.scopeOf f ids (f.catalogEntry c) db bs p) =
          f.change db id (f.catalogEntry c) p :=
      fun p hp id hid => value_difference hf hn hid hh he hcolumn hp (hle p hp) hnext
    exact ⟨⟨_, totalEach_eq_ok_iff.2 ⟨hnext, c, hq, hc, hd, hids, rfl⟩,
        runFrom_perDevice hf hn (fun _ => rfl) hchange⟩,
      _, total_eq_ok_iff.2 ⟨hnext, c, hq, hc, hd, hids, rfl⟩,
        runFrom_sum hf hn (fun _ => rfl) hchange hids⟩
  · intro hq
    have he : (f.catalogEntry q).expr.isAggregate = false := by
      rw [Family.isAggregate_catalogEntry hf hd, hq]
    have hcolumn := Family.column_catalogEntry_ne_time hf hd
    have hreading : ∀ p ∈ bs, ∀ id ∈ ids,
        (Expr.ref (startOf f id) (f.catalogEntry q).column).value
          [b.scopeOf f ids (f.catalogEntry q) db bs p] (b.scopeOf f ids (f.catalogEntry q) db bs p) =
            f.reading db id (f.catalogEntry q) p.1 :=
      fun p hp id hid => ref_startOf hf hn hid hh he hcolumn hp (hle p hp)
    exact ⟨_, readings_eq_ok_iff.2 ⟨hq, hd, hids, rfl⟩,
      runFrom_perDevice (v := fun id p => f.reading db id (f.catalogEntry q) p.1) hf hn
        (fun _ => rfl) hreading⟩

/-- Counters of two solar inverters, over the noons of two days and the noon after them.  One reading
    lies in the last second of the last hour, one after it, and the second inverter reports between
    two noons only. -/
def solarReadings : Database where
  relation r :=
    if r = Family.solar.table then
      [[(deviceColumn, some 1), (timeColumn, some 43200), ("energy_wh", some 10)],
        [(deviceColumn, some 1), (timeColumn, some 45000), ("energy_wh", some 20)],
        [(deviceColumn, some 2), (timeColumn, some 50000), ("energy_wh", some 5)],
        [(deviceColumn, some 1), (timeColumn, some 129600), ("energy_wh", some 45)],
        [(deviceColumn, some 1), (timeColumn, some 219599), ("energy_wh", some 99)],
        [(deviceColumn, some 1), (timeColumn, some 219600), ("energy_wh", some 200)]]
    else []
  inWindow _ _ := true
  series _ _ _ := [86400, 0]
  boundary _ t := ⌊t / 3600⌋ * 3600
  text t :=
    if t = intervalText "1 hour" then some 3600
    else if t = intervalText "12 hours" then some 43200
    else if t = intervalText "1 day" then some 86400
    else none

theorem hourly_solarReadings : solarReadings.Hourly 3600 where
  span := by decide
  start_le t := by
    have hfloor : (⌊t / 3600⌋ : ℚ) ≤ t / 3600 := Int.floor_le _
    show (⌊t / 3600⌋ : ℚ) * 3600 ≤ t
    linarith
  lt_next t := by
    have hfloor : t / 3600 < ⌊t / 3600⌋ + 1 := Int.lt_floor_add_one _
    show t < (⌊t / 3600⌋ : ℚ) * 3600 + 3600
    linarith

/-- The noons of the two days, each with the following one. -/
def noons : List (ℚ × ℚ) := [(129600, 216000), (43200, 129600)]

/-- Days, each with its own noon only. -/
def ownNoon : Buckets := ⟨.day, "1 day", "12 hours", false⟩

/-- Totals of days, and readings with and without the following noons. -/
theorem rows_unpruned_solar :
    (∃ s, daily.totalEach .solar [1, 2] .windowEnergy = .ok s ∧ s.run solarReadings =
      [[("time", some 43200), ("solar1.d_energy_wh", some 25), ("solar2.d_energy_wh", none)],
        [("time", some 129600), ("solar1.d_energy_wh", some 54), ("solar2.d_energy_wh", none)]]) ∧
    (∃ s, daily.total .solar [1, 2] .windowEnergy = .ok s ∧ s.run solarReadings =
      [[("time", some 43200), ("solar.d_energy_wh", some 25)],
        [("time", some 129600), ("solar.d_energy_wh", some 54)]]) ∧
    (∃ s, daily.readings .solar [1, 2] .energy = .ok s ∧ s.run solarReadings =
      [[("time", some 43200), ("solar1.energy_wh", some 20), ("solar2.energy_wh", none)],
        [("time", some 129600), ("solar1.energy_wh", some 45), ("solar2.energy_wh", none)]]) ∧
    (∃ s, ownNoon.readings .solar [1, 2] .energy = .ok s ∧ s.run solarReadings =
      [[("time", some 43200), ("solar1.energy_wh", some 20), ("solar2.energy_wh", none)],
        [("time", some 129600), ("solar1.energy_wh", some 45), ("solar2.energy_wh", none)]]) := by
  have hf : Family.solar ∈ Family.all := by decide
  have hids : ([1, 2] : List ℕ) ≠ [] := by decide
  have hn : ([1, 2] : List ℕ).Nodup := by decide
  have hle : ∀ p ∈ noons, p.1 ≤ p.2 := by decide
  have hdaily : daily.statement.run solarReadings = noons.map daily.record := by decide +kernel
  have hown : ownNoon.statement.run solarReadings = noons.map ownNoon.record := by decide +kernel
  obtain ⟨⟨s, hs, heach⟩, t, ht, htotal⟩ :=
    (rows_unpruned (q := .windowEnergy) daily hf hids hn (by decide) hourly_solarReadings hle).1
      .energy rfl rfl
  obtain ⟨r, hr, hreadings⟩ :=
    (rows_unpruned (q := .energy) daily hf hids hn (by decide) hourly_solarReadings hle).2 rfl
  obtain ⟨o, ho, hownReadings⟩ :=
    (rows_unpruned (q := .energy) ownNoon hf hids hn (by decide) hourly_solarReadings hle).2 rfl
  refine ⟨⟨s, hs, ?_⟩, ⟨t, ht, ?_⟩, ⟨r, hr, ?_⟩, o, ho, ?_⟩
  · obtain ⟨-, c, -, -, -, -, rfl⟩ := totalEach_eq_ok_iff.1 hs
    rw [Statement.run_eq_runFrom rfl, hdaily, heach]
    decide +kernel
  · obtain ⟨-, c, -, -, -, -, rfl⟩ := total_eq_ok_iff.1 ht
    rw [Statement.run_eq_runFrom rfl, hdaily, htotal]
    decide +kernel
  · obtain ⟨-, -, -, rfl⟩ := readings_eq_ok_iff.1 hr
    rw [Statement.run_eq_runFrom rfl, hdaily, hreadings]
    decide +kernel
  · obtain ⟨-, -, -, rfl⟩ := readings_eq_ok_iff.1 ho
    rw [Statement.run_eq_runFrom rfl, hown, hownReadings]
    decide +kernel

end Buckets

end EnergyQuery
