/-
  The columns of a statement have different names.

  * `Statement.DistinctColumns` says so of what a statement outputs, of its
    derived table and of its common table expressions;
  * `Alignment.distinctColumns`: what an alignment outputs are the columns of
    its derived table, and each name there is found once if the statement is
    well scoped;
  * `Family.distinctColumns_labelled`, `Combination.distinctColumns_total`, ..:
    the statements of a family and of a combination, whenever they can be
    composed.
-/
import EnergyQuery.Proofs.Query.BucketScoping
import EnergyQuery.Proofs.Query.HouseScoping
import Mathlib.Data.List.Induction

namespace EnergyQuery

open Sql

/-- No two columns that the statement outputs have one name, nor two of its derived table or of a
    common table expression. -/
structure Sql.Statement.DistinctColumns (s : Statement) : Prop where
  output : s.columns.Nodup
  derived : ∀ c name, s.source = some (.derived c name) → (c.fields.map (·.name.identifier)).Nodup
  staged : ∀ t ∈ s.ctes, t.columns.Nodup

/-! ## Kinds of statements -/

/-- A statement without a derived table. -/
theorem Sql.Statement.DistinctColumns.of_relation {s : Statement} {r : String}
    (hs : s.source = some (.relation r)) (h : s.columns.Nodup)
    (hctes : ∀ t ∈ s.ctes, t.columns.Nodup) : s.DistinctColumns where
  output := h
  derived c name hsource := by simp [hs] at hsource
  staged := hctes

namespace Alignment
variable {x : Alignment}

/-- What is selected from the derived table are its columns, by their names. -/
theorem names_statement : x.statement.fields.map (·.name) = x.inner.fields.map (·.name) := by
  rw [inner, List.map_cons, name_timeOf]
  exact congrArg (_ :: ·) List.map_map

theorem columns_statement : x.statement.columns = x.inner.fields.map (·.name.identifier) := by
  have hnames := congrArg (List.map Name.identifier) (names_statement (x := x))
  rwa [List.map_map, List.map_map] at hnames

/-- **An alignment that is well scoped has distinct columns**, if what it stages has. -/
theorem distinctColumns (h : WellScoped houseTables x.statement)
    (hstaged : ∀ t ∈ x.staged, t.columns.Nodup) : x.statement.DistinctColumns := by
  have hnodup : x.statement.columns.Nodup := by
    refine List.nodup_iff_count_eq_one.2 fun n hn => ?_
    obtain ⟨f, hf, rfl⟩ := List.mem_map.1 hn
    have hone := ((h.outer x.inner derivedName rfl).2 f hf).2
    rw [columns_statement, List.count_eq_length_filter, List.filter_map, List.length_map]
    exact hone
  refine ⟨hnodup, fun c name hsource => ?_, hstaged⟩
  obtain ⟨rfl, -⟩ : x.inner = c ∧ derivedName = name := by
    simpa [statement, Statement.timePresent, Statement.ordered, Statement.restrict,
      source] using hsource
  rwa [columns_statement] at hnodup

end Alignment

/-! ## Staged relations -/

section
variable {α : Type} [DecidableEq α] {a : α} {l : List α}

/-- What comes last is kept if it is not there yet. -/
theorem eraseDups_concat : (l ++ [a]).eraseDups = l.eraseDups ++ if a ∈ l then [] else [a] := by
  rw [List.eraseDups_append]
  split_ifs with h <;> simp [List.removeAll, List.eraseDups_cons, h]

theorem nodup_eraseDups (l : List α) : l.eraseDups.Nodup := by
  induction l using List.reverseRecOn with
  | nil => exact List.nodup_nil
  | append_singleton l a ih =>
    rw [eraseDups_concat]
    split_ifs with h
    · rwa [List.append_nil]
    · exact List.concat_eq_append ▸ ih.concat (mt List.mem_eraseDups.1 h)

/-- What is chosen once only is staged as it is chosen. -/
theorem eraseDups_eq_self (h : l.Nodup) : l.eraseDups = l := by
  induction l using List.reverseRecOn with
  | nil => rfl
  | append_singleton l a ih =>
    obtain ⟨hl, ha⟩ := by simpa [List.nodup_append] using h
    rw [eraseDups_concat, ih hl, if_neg fun hmem => ha a hmem rfl]

end

theorem Contribution.nodup_staged {s : Contribution} (h : s.also.Nodup) : s.staged.Nodup := by
  rw [staged, List.nodup_cons]
  exact ⟨fun hmem => by simp at hmem, h.filter _⟩

namespace Family
variable {f : Family} {id : ℕ} {ids rest : List ℕ} {q : Quantity} {qs : List Quantity}
  {channels : List Channel} {s : Statement}

/-- The columns of a staged relation are those of different quantities, and the time. -/
theorem nodup_columns_staged (hf : f ∈ all) (hn : qs.Nodup) (hq : ∀ q ∈ qs, f.Declares q) :
    (f.staged qs id).columns.Nodup := by
  rw [columns_staged, List.nodup_cons]
  constructor
  · intro hmem
    obtain ⟨q, hqs, htime⟩ := List.mem_map.1 hmem
    exact column_catalogEntry_ne_time hf (hq q hqs) htime
  · exact hn.map_on fun q hqs c hcs h => column_catalogEntry_inj hf (hq q hqs) (hq c hcs) h

theorem nodup_columns_of_mem_map_staged (hf : f ∈ all) (hn : qs.Nodup)
    (hq : ∀ q ∈ qs, f.Declares q) : ∀ t ∈ ids.map (f.staged qs), t.columns.Nodup := by
  intro t ht
  obtain ⟨id, -, rfl⟩ := List.mem_map.1 ht
  exact nodup_columns_staged hf hn hq

/-! ## Statements of a family -/

/-- The column of one device over the window. -/
theorem distinctColumns_single {e : Expr} {n : Name} :
    (f.scan id [⟨e, n⟩]).inWindow.DistinctColumns :=
  .of_relation rfl (List.nodup_singleton _) (by simp [scan, Statement.inWindow, Statement.restrict])

/-- The columns of one device in the order of time. -/
theorem distinctColumns_ordered {fields : List Field}
    (h : (timeColumn :: fields.map (·.name.identifier)).Nodup) :
    (f.scan id (.time :: fields)).inWindow.ordered.DistinctColumns :=
  .of_relation rfl h
    (by simp [scan, Statement.inWindow, Statement.restrict, Statement.ordered])

/-- **Columns of each device**, if the labels of the channels are distinct. -/
theorem distinctColumns_labelled (hf : f ∈ all) (hn : ids.Nodup)
    (hl : (channels.map f.channelLabel).Nodup) (h : f.labelled ids channels = .ok s) :
    s.DistinctColumns := by
  have hscoped := wellScoped_labelled hf hn hl h
  obtain ⟨hc, ⟨id, rfl, rfl⟩ | ⟨id, rest, rfl, rfl⟩⟩ := labelled_cases h
  · refine distinctColumns_ordered ?_
    have hnames := nodup_names_fields (p := ⟨f, [id], channels⟩) hn hl
    rw [PerDevice.fields, List.flatMap_singleton, List.map_map] at hnames
    rw [List.map_map, List.nodup_cons]
    refine ⟨fun hmem => ?_, hnames⟩
    obtain ⟨c, -, htime⟩ := List.mem_map.1 hmem
    exact time_ne_label htime.symm
  · refine Alignment.distinctColumns hscoped (nodup_columns_of_mem_map_staged hf
      (nodup_eraseDups _) (PerDevice.declares_quantities_iff.2 fun c hmem => (hc c hmem).2))

theorem distinctColumns_each (hf : f ∈ all) (hn : ids.Nodup) (hq : qs.Nodup)
    (hd : ∀ q ∈ qs, f.Declares q) (h : f.each ids qs = .ok s) : s.DistinctColumns :=
  distinctColumns_labelled hf hn (nodup_channelLabel hf hq hd) h

/-- The columns of each device beside computed ones. -/
theorem distinctColumns_perDevice {x : Alignment} (hf : f ∈ all)
    (hx : f.perDevice ids qs = .ok x) {fields : List Field}
    (h : WellScoped houseTables (x.compute fields).statement) :
    (x.compute fields).statement.DistinctColumns := by
  obtain ⟨-, hx⟩ := perDevice_eq_ok_iff.1 hx
  obtain ⟨id, rest, rfl, hdeclared, rfl⟩ := PerDevice.alignment_eq_ok_iff.1 hx
  exact Alignment.distinctColumns h
    (nodup_columns_of_mem_map_staged hf (nodup_eraseDups _) hdeclared)

theorem distinctColumns_total (hf : f ∈ all) (hn : ids.Nodup) (h : f.total ids q = .ok s) :
    s.DistinctColumns := by
  have hscoped := wellScoped_total hf hn h
  obtain ⟨⟨-, hd⟩, ⟨id, rfl, rfl⟩ | ⟨id, rest, rfl, rfl⟩⟩ := total_cases h
  · exact distinctColumns_ordered nodup_time_label
  · exact Alignment.distinctColumns hscoped
      (nodup_columns_of_mem_map_staged hf (List.nodup_singleton q) (by simpa using hd))

theorem distinctColumns_joinedOver {c : Quantity} {fields : List Field} (hf : f ∈ all)
    (hc : f.Declares c) (h : (fields.map (·.name.identifier)).Nodup) :
    (f.joinedOver id rest c fields).DistinctColumns :=
  .of_relation rfl h
    (nodup_columns_of_mem_map_staged hf (List.nodup_singleton c) (by simpa using hc))

theorem distinctColumns_windowEach (hf : f ∈ all) (hn : ids.Nodup)
    (h : f.windowEach ids q = .ok s) : s.DistinctColumns := by
  obtain ⟨-, ⟨id, rfl, rfl⟩ | ⟨c, id, rest, -, hc, rfl, rfl⟩⟩ := windowEach_cases h
  · exact distinctColumns_single
  · refine distinctColumns_joinedOver hf hc ?_
    rw [List.map_map]
    exact hn.map fun i j hij => (deviceLabel_inj.1 hij).1

theorem distinctColumns_windowTotal (hf : f ∈ all) (h : f.windowTotal ids q = .ok s) :
    s.DistinctColumns := by
  obtain ⟨-, ⟨id, rfl, rfl⟩ | ⟨c, id, rest, -, hc, rfl, rfl⟩⟩ := windowTotal_cases h
  · exact distinctColumns_single
  · exact distinctColumns_joinedOver hf hc (List.nodup_singleton _)

end Family

section
variable {ids : List ℕ} {s : Statement}

theorem Generator.distinctColumns_heat (hn : ids.Nodup) (h : Generator.heat ids = .ok s) :
    s.DistinctColumns := by
  have hf : Family.generator ∈ Family.all := by decide
  have hscoped := wellScoped_heat hn h
  unfold Generator.heat at h
  split at h
  · exact Family.distinctColumns_each hf hn (by decide) (by decide) h
  · simp only [Fallible.bind_eq_ok, Fallible.pure_eq_ok] at h
    obtain ⟨x, hx, _, -, rfl⟩ := h
    exact Family.distinctColumns_perDevice hf hx hscoped

theorem Heatpump.distinctColumns_all (hn : ids.Nodup) (h : Heatpump.all ids = .ok s) :
    s.DistinctColumns := by
  have hf : Family.heatpump ∈ Family.all := by decide
  have hscoped := wellScoped_all hn h
  unfold Heatpump.all at h
  dsimp only at h
  split at h
  · exact Family.distinctColumns_each hf hn (by decide) (by decide) h
  · simp only [Fallible.bind_eq_ok, Fallible.pure_eq_ok] at h
    obtain ⟨x, hx, _, -, _, -, _, -, rfl⟩ := h
    exact Family.distinctColumns_perDevice hf hx hscoped

end

/-! ## Combinations -/

namespace Combination
variable {c : Combination} {label : String} {s : Statement}

/-- What a combination stages has distinct columns. -/
theorem nodup_columns_of_mem_staged (hf : ∀ s ∈ c.active, s.family ∈ Family.all)
    (hd : ∀ s ∈ c.active, s.Declares) (ha : ∀ s ∈ c.active, s.also.Nodup) :
    ∀ t ∈ c.active.flatMap stagedOf, t.columns.Nodup := by
  intro t ht
  obtain ⟨s, hs, ht⟩ := List.mem_flatMap.1 ht
  exact Family.nodup_columns_of_mem_map_staged (hf s hs) (Contribution.nodup_staged (ha s hs))
    (hd s hs) t ht

theorem distinctColumns_total (hf : ∀ s ∈ c.active, s.family ∈ Family.all)
    (hn : c.devices.Nodup) (ha : ∀ s ∈ c.active, s.also.Nodup) (h : c.total label = .ok s) :
    s.DistinctColumns := by
  have hscoped := wellScoped_total hf hn h
  cases hsingle : c.single? with
  | some p =>
    obtain ⟨t, id⟩ := p
    obtain ⟨-, -, rfl⟩ := (total_eq_ok_iff_of_single hsingle).1 h
    exact Family.distinctColumns_ordered nodup_time_label
  | none =>
    obtain ⟨hq, a, rs, -, rfl⟩ := (total_eq_ok_iff hsingle).1 h
    exact Alignment.distinctColumns hscoped
      (nodup_columns_of_mem_staged hf (fun s hs => (hq s hs).2) ha)

theorem distinctColumns_windowTotal (hf : ∀ s ∈ c.active, s.family ∈ Family.all)
    (ha : ∀ s ∈ c.active, s.also.Nodup) (h : c.windowTotal label = .ok s) :
    s.DistinctColumns := by
  cases hsingle : c.single? with
  | some p =>
    obtain ⟨t, id⟩ := p
    obtain ⟨-, -, rfl⟩ := (windowTotal_eq_ok_iff_of_single hsingle).1 h
    exact Family.distinctColumns_single
  | none =>
    obtain ⟨hq, a, rs, -, rfl⟩ := (windowTotal_eq_ok_iff hsingle).1 h
    exact .of_relation rfl (List.nodup_singleton _)
      (nodup_columns_of_mem_staged hf (fun s hs => (hq s hs).2) ha)

end Combination

namespace Heating
variable {heatpumps generators : List ℕ} {s : Statement}

theorem distinctColumns_heat (hh : heatpumps.Nodup) (hg : generators.Nodup)
    (h : heat heatpumps generators = .ok s) : s.DistinctColumns := by
  have hscoped := wellScoped_heat hh hg h
  have hhouse : (combination heatpumps generators .heat [.cop]).IsHouse := isHouse hh hg
  have halso : ∀ s ∈ (combination heatpumps generators .heat [.cop]).active, s.also.Nodup := by
    intro s hs
    obtain rfl | rfl := by simpa [combination] using (List.mem_filter.1 hs).1
    · exact List.nodup_singleton _
    · exact List.nodup_nil
  have haligned {x : Alignment} {fields : List Field}
      (hx : (combination heatpumps generators .heat [.cop]).alignment = .ok x)
      (h : WellScoped houseTables (x.compute fields).statement) :
      (x.compute fields).statement.DistinctColumns := by
    obtain ⟨hd, a, rs, -, rfl⟩ := Combination.alignment_eq_ok_iff.1 hx
    exact Alignment.distinctColumns h
      (Combination.nodup_columns_of_mem_staged hhouse.family_mem_all hd halso)
  rcases heatpumps with _ | ⟨id, _ | ⟨j, heatpumps⟩⟩
  · exact Combination.distinctColumns_total hhouse.family_mem_all hhouse.nodup_devices halso h
  · rcases generators with _ | ⟨i, generators⟩
    · simp only [heat, Fallible.bind_eq_ok, Fallible.pure_eq_ok] at h
      obtain ⟨_, -, _, -, rfl⟩ := h
      have hnames :
          [timeColumn, "heating" ++ "." ++ "heat_w", "heatpump" ++ "." ++ "cop"].Nodup := by
        decide
      exact Family.distinctColumns_ordered hnames
    · simp only [heat, Fallible.bind_eq_ok, Fallible.pure_eq_ok] at h
      obtain ⟨x, hx, _, -, _, -, rfl⟩ := h
      exact haligned hx hscoped
  · simp only [heat, Fallible.bind_eq_ok, Fallible.pure_eq_ok] at h
    obtain ⟨x, hx, _, -, _, -, rfl⟩ := h
    exact haligned hx hscoped

end Heating

/-! ## Buckets -/

namespace Buckets
variable {b : Buckets} {f : Family} {ids : List ℕ} {q : Quantity} {s : Statement}

theorem nodup_columns_statement : b.statement.columns.Nodup := by
  have hne : timeColumn ≠ nextColumn := by decide
  rw [columns_statement]
  split <;> simp [hne]

theorem nodup_columns_stage {id : ℕ} {e : Entry} (he : e.column ≠ timeColumn) :
    (b.stage f id e).columns.Nodup := by
  show [timeColumn, e.column].Nodup
  simpa using he.symm

theorem distinctColumns_total (hf : f ∈ Family.all) (h : b.total f ids q = .ok s) :
    s.DistinctColumns := by
  obtain ⟨-, c, -, hc, -, -, rfl⟩ := total_eq_ok_iff.1 h
  refine .of_relation rfl nodup_time_label fun t ht => ?_
  rcases List.mem_cons.1 ht with rfl | ht
  · exact nodup_columns_statement
  · obtain ⟨id, -, rfl⟩ := List.mem_map.1 ht
    exact nodup_columns_stage (Family.column_catalogEntry_ne_time hf hc)

end Buckets

end EnergyQuery
