/-
  Rows grouped by the values of a first field.

  * `groupedByFirst_cons`: one group for each value that occurs, with all of the
    rows that have it;
  * `oncePerInstant_of_grouped`: groups by time have different times;
  * `bind_recordAt_grouped`: a column of the record that groups by time have at an
    instant is that column over the rows of the instant.
-/
import EnergyQuery.Proofs.Sql.JoinedReadings
import EnergyQuery.Proofs.Sql.Output

namespace EnergyQuery.Sql

/-! ## Groups -/

/-- The value that a field has in a single row. -/
def Field.valueIn (f : Field) (σ : Scope) : Value :=
  f.value ⟨[σ], σ⟩

/-- The rows in which a field has the value `v`. -/
def rowsWith (f : Field) (rows : List Scope) (v : Value) : List Scope :=
  rows.filter fun σ => f.valueIn σ == v

/-- Without columns. -/
instance : Inhabited Scope := ⟨⟨fun _ => none, fun _ _ => none, fun _ => none, fun _ t => t⟩⟩

/-- The group of these rows. -/
def groupWith (f : Field) (rows : List Scope) (v : Value) : Group :=
  ⟨rowsWith f rows v, (rowsWith f rows v).headI⟩

section
variable {f : Field} {fields : List Field} {rows : List Scope} {v : Value}

theorem mem_rowsWith_iff {σ : Scope} : σ ∈ rowsWith f rows v ↔ σ ∈ rows ∧ f.valueIn σ = v := by
  simp [rowsWith]

theorem rowsWith_eq_nil_iff : rowsWith f rows v = [] ↔ v ∉ rows.map f.valueIn := by
  simp [rowsWith, List.filter_eq_nil_iff]

/-- **One group for each value that occurs.** -/
theorem groupedByFirst_cons :
    groupedByFirst (f :: fields) rows = (rows.map f.valueIn).dedup.map (groupWith f rows) := by
  rw [List.map_eq_flatMap]
  refine List.flatMap_congr fun v hv => ?_
  have hoccurs : v ∈ rows.map f.valueIn := List.mem_dedup.1 hv
  have hne : rowsWith f rows v ≠ [] := fun h => rowsWith_eq_nil_iff.1 h hoccurs
  split
  · next h => exact absurd h hne
  · next σ more h =>
    have hrows : rowsWith f rows v = σ :: more := h
    rw [groupWith, hrows]
    rfl

/-- Outside aggregates, a group has the first field's value. -/
theorem value_groupWith (hf : f.expr.isAggregate = false) (hv : v ∈ rows.map f.valueIn) :
    f.value (groupWith f rows v) = v := by
  have hne : rowsWith f rows v ≠ [] := fun h => rowsWith_eq_nil_iff.1 h hv
  obtain ⟨σ, more, hrows⟩ := List.exists_cons_of_ne_nil hne
  have hσ : f.valueIn σ = v := (mem_rowsWith_iff.1 (hrows ▸ List.mem_cons_self)).2
  rw [Field.value, groupWith, hrows, ← hσ]
  exact Expr.value_eq_of_not_aggregate hf

end

/-! ## Groups by time -/

/-- The records of the groups. -/
def groupRecords (f : Field) (fields : List Field) (rows : List Scope) : List Record :=
  (groupedByFirst (f :: fields) rows).map (Group.record (f :: fields))

section
variable {db : Database} {r n : String} {f : Field} {fields : List Field} {rows : List Scope}
  {v : Value} {u : ℚ}

theorem groupRecords_eq :
    groupRecords f fields rows =
      (rows.map f.valueIn).dedup.map fun v => Group.record (f :: fields) (groupWith f rows v) := by
  rw [groupRecords, groupedByFirst_cons, List.map_map]
  rfl

/-- Where all times are different, no two records have one time. -/
theorem oncePerInstant_of_nodup (h : ((db.relation r).map (·.get timeColumn)).Nodup) :
    db.OncePerInstant [r] := by
  intro s hs t
  obtain rfl := List.mem_singleton.1 hs
  have hcount := List.nodup_iff_count_le_one.1 h (some t)
  rwa [List.count, List.countP_map, List.countP_eq_length_filter] at hcount

variable (hname : f.name.identifier = timeColumn) (hf : f.expr.isAggregate = false)
include hname hf

theorem get_time_groupWith (hv : v ∈ rows.map f.valueIn) :
    (Group.record (f :: fields) (groupWith f rows v)).get timeColumn = v := by
  rw [← hname, get_record_cons_self, value_groupWith hf hv]

/-- The times of the groups are the values of the first field, each of them once. -/
theorem map_time_groupRecords :
    (groupRecords f fields rows).map (·.get timeColumn) = (rows.map f.valueIn).dedup := by
  rw [groupRecords_eq, List.map_map]
  refine (List.map_congr_left fun v hv => ?_).trans (List.map_id _)
  exact get_time_groupWith hname hf (List.mem_dedup.1 hv)

section
variable (hr : db.relation r = groupRecords f fields rows)
include hr

/-- **Groups by time have different times.** -/
theorem oncePerInstant_of_grouped : db.OncePerInstant [r] := by
  refine oncePerInstant_of_nodup ?_
  rw [hr, map_time_groupRecords hname hf]
  exact List.nodup_dedup _

/-- The record of an instant is that of the rows of the instant, if there is one. -/
theorem recordAt_grouped :
    db.recordAt r u = if some u ∈ rows.map f.valueIn then
      some (Group.record (f :: fields) (groupWith f rows (some u))) else none := by
  split
  · next h =>
    refine recordAt_of_mem (oncePerInstant_of_grouped hname hf hr) ?_
      (get_time_groupWith hname hf h)
    rw [hr, groupRecords_eq]
    exact List.mem_map_of_mem (List.mem_dedup.2 h)
  · next h =>
    rw [← Option.not_isSome_iff_eq_none, recordAt_isSome_iff]
    rintro ⟨y, hy, htime⟩
    have hmem : some u ∈ (groupRecords f fields rows).map (·.get timeColumn) :=
      List.mem_map.2 ⟨y, hr ▸ hy, htime⟩
    rw [map_time_groupRecords hname hf] at hmem
    exact h (List.mem_dedup.1 hmem)

end

/-- **The largest value of an instant** is the same in the record of its group, which is looked up,
    and among the rows themselves. -/
theorem bind_recordAt_grouped {e : Expr} (hr : db.relation r = groupRecords f [⟨.max e, n⟩] rows)
    (hn : n ≠ timeColumn) (he : e.isAggregate = false) :
    (db.recordAt r u).bind (·.get n) =
      largest ((rowsWith f rows (some u)).map fun σ => e.value [σ] σ) := by
  rw [recordAt_grouped hname hf hr]
  split
  · rw [Option.bind_some, get_record_cons_of_ne (hname ▸ hn)]
    refine (get_record_cons_self (f := ⟨.max e, n⟩)).trans ?_
    refine congrArg largest (List.map_congr_left fun σ _ => ?_)
    exact Expr.value_eq_of_not_aggregate he
  · next h =>
    rw [rowsWith_eq_nil_iff.2 h]
    rfl

end

end EnergyQuery.Sql
