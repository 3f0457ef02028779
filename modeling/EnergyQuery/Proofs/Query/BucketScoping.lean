/-
  The names in the statements over calendar buckets stand for something.

  The readings of a device are staged after the buckets, whose span they look
  up, and each of them is in scope under one name or two: at a bucket's own
  instant, and at the following one.

  * `Buckets.scoped_selected`: the joined relations and the columns over them;
  * `Buckets.wellScoped_total`: the totals of all devices per bucket.
-/
import EnergyQuery.Proofs.Query.Scoping

namespace EnergyQuery

open Sql

namespace Buckets
variable {b : Buckets} {f : Family} {id : ℕ} {ids : List ℕ} {e : Entry} {q : Quantity}
  {fields : List Field} {s : Statement}

/-! ## Common table expressions -/

/-- The buckets hold the instants that readings are looked up at. -/
theorem columns_statement :
    b.statement.columns = timeColumn :: if b.hasNext then [nextColumn] else [] := by
  rw [Statement.columns, statement]
  cases b.hasNext <;> rfl

theorem isScan_statement {tables : List String} : b.statement.IsScan tables [] where
  ctes := rfl
  joins := rfl
  source := .inr ⟨_, _, _, _, rfl⟩
  fields x hx := by
    have hshifted (e : Expr) (he : e.RefsIn fun _ _ => False) :
        (b.shifted e).RefsIn fun _ _ => False := by
      unfold shifted
      split
      · exact he
      · exact ⟨he, trivial⟩
    rcases List.mem_cons.1 hx with rfl | hx
    · exact hshifted _ trivial
    · split at hx
      · obtain rfl := List.mem_singleton.1 hx
        exact hshifted _ ⟨trivial, trivial⟩
      · simp at hx
  clauses c hc := by simp [statement] at hc

/-- The readings of a device are staged after the buckets. -/
theorem isScan_stage (hf : f ∈ Family.all) (he : e ∈ f.catalog) {before : List Statement}
    (hb : b.statement ∈ before) : (b.stage f id e).IsScan houseTables before where
  ctes := rfl
  joins := rfl
  source := .inl ⟨f.table, rfl, .inl (Family.table_mem_houseTables hf)⟩
  fields x hx := by
    obtain rfl | rfl : x = ⟨.truncated .hour (.column timeColumn), timeColumn⟩ ∨
        x = ⟨.max e.expr, e.column⟩ := by simpa [stage, Family.scan, Statement.restrict] using hx
    · trivial
    · exact Family.refsIn_entry f hf e he
  clauses c hc := by
    have hoffers {n : String} (hn : n ∈ b.statement.columns) : Offers before relation n :=
      ⟨b.statement, hb, rfl, hn⟩
    simp only [stage, Family.scan, Statement.restrict, List.cons_append, List.nil_append,
      List.mem_cons, List.not_mem_nil, or_false] at hc
    rcases hc with rfl | rfl | rfl | rfl | rfl | rfl
    · trivial
    · trivial
    · exact hoffers (by simp [columns_statement])
    · trivial
    · refine hoffers ?_
      rw [columns_statement, edge]
      split <;> simp
    · trivial

/-! ## Relations in scope -/

/-- The names under which the readings of the devices are in scope. -/
def scopeNames (b : Buckets) (f : Family) (id : ℕ) : List String :=
  startOf f id :: if b.hasNext then [nextOf f id] else []

theorem mem_lookups_iff {j : Join} :
    j ∈ b.lookups f id ↔ j = lookup f id (startOf f id) timeColumn ∨
      b.hasNext = true ∧ j = lookup f id (nextOf f id) nextColumn := by
  cases h : b.hasNext <;> simp [lookups, h]

theorem map_scopeName_lookups : (b.lookups f id).map Join.scopeName = b.scopeNames f id := by
  cases h : b.hasNext <;> simp [lookups, scopeNames, h, lookup, Join.scopeName]

theorem map_relation_lookups : ∀ j ∈ b.lookups f id, j.relation = f.relation id := by
  intro j hj
  obtain rfl | ⟨-, rfl⟩ := mem_lookups_iff.1 hj <;> rfl

theorem startOf_inj {i j : ℕ} : startOf f i = startOf f j ↔ i = j := by
  rw [startOf, startOf, Family.relation_append_inj (by decide) (by decide)]
  exact and_iff_left rfl

theorem nextOf_inj {i j : ℕ} : nextOf f i = nextOf f j ↔ i = j := by
  rw [nextOf, nextOf, Family.relation_append_inj (by decide) (by decide)]
  exact and_iff_left rfl

theorem startOf_ne_nextOf {i j : ℕ} : startOf f i ≠ nextOf f j := by
  rw [startOf, nextOf, ne_eq, Family.relation_append_inj (by decide) (by decide)]
  simp

theorem mem_scopeNames_iff {n : String} :
    n ∈ b.scopeNames f id ↔ n = startOf f id ∨ b.hasNext = true ∧ n = nextOf f id := by
  cases h : b.hasNext <;> simp [scopeNames, h]

/-- No two relations are in scope under one name. -/
theorem nodup_scopeNames (hn : ids.Nodup) :
    (relation :: ids.flatMap (b.scopeNames f)).Nodup := by
  rw [List.nodup_cons, List.nodup_flatMap]
  refine ⟨fun hmem => ?_, fun id _ => ?_, hn.imp fun {i j} hij => ?_⟩
  · obtain ⟨id, -, hid⟩ := List.mem_flatMap.1 hmem
    have hfree : digitFree relation = true := by decide
    rcases mem_scopeNames_iff.1 hid with h | ⟨-, h⟩
    · exact Family.relation_append_ne_of_digitFree hfree h.symm
    · exact Family.relation_append_ne_of_digitFree hfree h.symm
  · cases h : b.hasNext <;> simp [scopeNames, h, startOf_ne_nextOf]
  · intro n hi hj
    rcases mem_scopeNames_iff.1 hi with rfl | ⟨-, rfl⟩
    · rcases mem_scopeNames_iff.1 hj with h | ⟨-, h⟩
      · exact hij (startOf_inj.1 h)
      · exact startOf_ne_nextOf h
    · rcases mem_scopeNames_iff.1 hj with h | ⟨-, h⟩
      · exact startOf_ne_nextOf h.symm
      · exact hij (nextOf_inj.1 h)

/-- The relations that are joined, with their names in scope. -/
theorem targets_selected :
    (Chain.mk fields relation (ids.flatMap (b.lookups f))).targets =
      (relation, relation) :: ids.flatMap fun id =>
        (b.scopeNames f id).map fun n => (f.relation id, n) := by
  rw [Chain.targets, List.map_flatMap]
  congr 1
  refine List.flatMap_congr fun id _ => ?_
  rw [← map_scopeName_lookups, List.map_map]
  exact List.map_congr_left fun j hj => Prod.ext (map_relation_lookups j hj) rfl

theorem offers_buckets {n : String} (hn : n ∈ b.statement.columns) :
    Offers (b.stages f ids e) relation n :=
  ⟨b.statement, by simp [stages], rfl, hn⟩

theorem offers_readings {n : String} (hid : id ∈ ids) (hn : n ∈ [timeColumn, e.column]) :
    Offers (b.stages f ids e) (f.relation id) n :=
  ⟨b.stage f id e, List.mem_cons_of_mem _ (List.mem_map_of_mem hid), rfl, hn⟩

theorem resolves_buckets {n : String} (hn : n ∈ b.statement.columns) :
    (Chain.mk fields relation (ids.flatMap (b.lookups f))).Resolves (b.stages f ids e)
      relation n :=
  ⟨(relation, relation), by simp [targets_selected], rfl, offers_buckets hn⟩

theorem resolves_readings {r n : String} (hid : id ∈ ids) (hr : r ∈ b.scopeNames f id)
    (hn : n ∈ [timeColumn, e.column]) :
    (Chain.mk fields relation (ids.flatMap (b.lookups f))).Resolves (b.stages f ids e) r n := by
  refine ⟨(f.relation id, r), ?_, rfl, offers_readings hid hn⟩
  rw [targets_selected]
  exact List.mem_cons_of_mem _ (List.mem_flatMap.2 ⟨id, hid, List.mem_map_of_mem hr⟩)

/-- **The chain of buckets and readings is scoped** if the computed columns read the readings under
    the names that are in scope. -/
theorem scoped_selected
    (hfields : ∀ x ∈ fields, x.expr.RefsIn
      ((Chain.mk (⟨.ref relation timeColumn, timeColumn⟩ :: fields) relation
        (ids.flatMap (b.lookups f))).Resolves (b.stages f ids e))) (hn : ids.Nodup) :
    (Chain.mk (⟨.ref relation timeColumn, timeColumn⟩ :: fields) relation
      (ids.flatMap (b.lookups f))).Scoped (b.stages f ids e) where
  declared p hp := by
    rw [targets_selected, List.mem_cons, List.mem_flatMap] at hp
    rcases hp with rfl | ⟨id, hid, hp⟩
    · exact (offers_buckets (by simp [columns_statement]) : Offers _ _ timeColumn).exists_mem
    · obtain ⟨n, -, rfl⟩ := List.mem_map.1 hp
      exact (offers_readings hid (by simp) : Offers _ _ timeColumn).exists_mem
  distinct := by
    have hnames : (Chain.mk (⟨.ref relation timeColumn, timeColumn⟩ :: fields) relation
        (ids.flatMap (b.lookups f))).targets.map (·.2) =
          relation :: ids.flatMap (b.scopeNames f) := by
      rw [targets_selected, List.map_cons, List.map_flatMap]
      congr 1
      refine List.flatMap_congr fun id _ => ?_
      rw [List.map_map]
      exact List.map_id _
    rw [hnames]
    exact nodup_scopeNames hn
  used t ht := by
    rw [targets_selected]
    rcases List.mem_cons.1 ht with rfl | ht
    · exact ⟨_, List.mem_cons_self, rfl⟩
    · obtain ⟨id, hid, rfl⟩ := List.mem_map.1 ht
      refine ⟨(f.relation id, startOf f id), List.mem_cons_of_mem _ ?_, rfl⟩
      exact List.mem_flatMap.2 ⟨id, hid, List.mem_map_of_mem (mem_scopeNames_iff.2 (.inl rfl))⟩
  fields x hx := by
    rcases List.mem_cons.1 hx with rfl | hx
    · exact resolves_buckets (by simp [columns_statement])
    · exact hfields x hx
  joins j hj := by
    obtain ⟨id, hid, hj⟩ := List.mem_flatMap.1 hj
    rcases mem_lookups_iff.1 hj with rfl | ⟨hnext, rfl⟩
    · exact ⟨resolves_readings hid (mem_scopeNames_iff.2 (.inl rfl)) (by simp),
        resolves_buckets (by simp [columns_statement])⟩
    · exact ⟨resolves_readings hid (mem_scopeNames_iff.2 (.inr ⟨hnext, rfl⟩)) (by simp),
        resolves_buckets (by simp [columns_statement, hnext])⟩

theorem wellScoped_selected (hf : f ∈ Family.all) (he : e ∈ f.catalog) (hn : ids.Nodup)
    (hfields : ∀ x ∈ fields, x.expr.RefsIn
      ((Chain.mk (⟨.ref relation timeColumn, timeColumn⟩ :: fields) relation
        (ids.flatMap (b.lookups f))).Resolves (b.stages f ids e))) :
    WellScoped houseTables (b.selected f ids e fields) where
  named t ht := by
    rcases List.mem_cons.1 ht with rfl | ht
    · exact ⟨relation, rfl, by decide⟩
    · obtain ⟨id, -, rfl⟩ := List.mem_map.1 ht
      exact ⟨f.relation id, rfl, Family.relation_not_mem_houseTables⟩
  distinct := by
    have hnames : (b.stages f ids e).map (·.name) =
        (relation :: ids.map f.relation).map some := by
      rw [stages, List.map_cons, List.map_map, List.map_cons, List.map_map]
      rfl
    show ((b.stages f ids e).map (·.name)).Nodup
    rw [hnames]
    refine List.Nodup.map (Option.some_injective _) (List.nodup_cons.2 ⟨fun h => ?_, ?_⟩)
    · obtain ⟨id, -, hid⟩ := List.mem_map.1 h
      exact Family.relation_ne_of_digitFree (by decide) hid
    · exact Family.nodup_map_relation hn
  -- The buckets are generated from no relation, and the stage of a device scans its own table.
  staged before t after hs := by
    cases before with
    | nil =>
      obtain ⟨rfl, -⟩ := List.cons.inj hs
      exact isScan_statement
    | cons s before =>
      obtain ⟨rfl, hmore⟩ := List.cons.inj hs
      have ht : t ∈ ids.map fun id => b.stage f id e := by
        rw [hmore]
        exact List.mem_append_right _ List.mem_cons_self
      obtain ⟨id, -, rfl⟩ := List.mem_map.1 ht
      exact isScan_stage hf he List.mem_cons_self
  direct h := by simp [selected, stages] at h
  chain _ := by
    refine ⟨_, rfl, scoped_selected hfields hn, fun c hc => ?_⟩
    obtain rfl | rfl : c = .timePresent (some relation) ∨ c = .orderedByTime := by
      simpa [selected] using hc
    · exact resolves_buckets (by simp [columns_statement])
    · trivial
  outer c name h := by simp [selected] at h

/-- The totals of all devices per bucket are well scoped. -/
theorem wellScoped_total (hf : f ∈ Family.all) (hn : ids.Nodup) (h : b.total f ids q = .ok s) :
    WellScoped houseTables s := by
  obtain ⟨hnext, c, -, hc, -, hids, rfl⟩ := total_eq_ok_iff.1 h
  refine wellScoped_selected hf (Family.catalogEntry_mem hc) hn fun x hx => ?_
  obtain rfl := List.mem_singleton.1 hx
  refine Expr.refsIn_sum (by simpa using hids) fun y hy => ?_
  obtain ⟨id, hid, rfl⟩ := List.mem_map.1 hy
  exact ⟨resolves_readings hid (mem_scopeNames_iff.2 (.inr ⟨hnext, rfl⟩)) (by simp),
    resolves_readings hid (mem_scopeNames_iff.2 (.inl rfl)) (by simp)⟩

end Buckets

end EnergyQuery
