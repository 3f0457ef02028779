/-
  Which devices a statement reads, and within which bounds.

  The nodes of a statement are its common table expressions and the statement
  itself.  A node that reads from a table of the house is a scan.

  * `ReadsDevice b d s`: `s` reads the rows of the device `d` from the table of
    its family, and of these only those of the selected window, or those that the
    buckets `b` look up;
  * `Draws b ds s`: the scans of `s` are those of the devices `ds`, one for each
    and in their order, and no table is read elsewhere;
  * `Family.draws_labelled`, `Combination.draws_total`, `Heating.draws_heat`,
    `Buckets.draws_total`, ..: so it is for every builder, with the devices that
    it is given.
-/
import EnergyQuery.Proofs.Query.BucketScoping
import EnergyQuery.Proofs.Query.HouseScoping

namespace EnergyQuery

open Sql

/-! ## Nodes -/

namespace Sql

/-- The relations that a source names. -/
def Source.reads : Source → List String
  | relation t => [t]
  | derived c _ => c.anchor :: c.joins.map (·.relation)
  | buckets .. => []

namespace Statement

/-- The common table expressions of a statement, and the statement itself. -/
def nodes (s : Statement) : List Statement :=
  s.ctes ++ [s]

/-- Every relation that a node names, as a source or in a join. -/
def reads (s : Statement) : List String :=
  s.source.toList.flatMap Source.reads ++ s.joins.map (·.relation)

/-- The rows of the node are those of a table of the house. -/
def isScan (s : Statement) : Bool :=
  match s.source with
  | some (.relation t) => t ∈ houseTables
  | _ => false

/-- The nodes of a statement that read a table. -/
def scans (s : Statement) : List Statement :=
  s.nodes.filter isScan

variable {s : Statement}

/-- A node is no scan if it names no table. -/
theorem isScan_eq_false (h : ∀ r ∈ s.reads, r ∉ houseTables) : s.isScan = false := by
  unfold isScan
  split
  · next t ht => simpa using h t (by simp [reads, ht, Source.reads])
  · rfl

end Statement

end Sql

/-! ## Devices -/

/-- How the rows of a scan are kept to the selected window, or to the span that buckets look up. -/
inductive Bounds : Option Buckets → List Clause → Prop
  | window : Bounds none [.inWindow .selected]
  | windowInOrder : Bounds none [.inWindow .selected, .orderedByTime]
  | span (b : Buckets) : Bounds (some b)
    [.fromFirst Buckets.relation, .conjunction, .beforeLast Buckets.relation b.edge "1 hour",
      .groupedByFirst]

/-- `s` reads the rows of a device from the table of its family, within bounds. -/
structure ReadsDevice (b : Option Buckets) (d : Family × ℕ) (s : Statement) : Prop where
  ctes : s.ctes = []
  source : s.source = some (.relation d.1.table)
  joins : s.joins = []
  clauses : ∃ bounds, s.clauses = .device d.2 :: .conjunction :: bounds ∧ Bounds b bounds

/-- The scans of `s` are those of the devices `ds`, one for each, and no table is read elsewhere. -/
structure Draws (b : Option Buckets) (ds : List (Family × ℕ)) (s : Statement) : Prop where
  scans : List.Forall₂ (ReadsDevice b) ds s.scans
  tables : (s.nodes.flatMap Statement.reads).filter (· ∈ houseTables) = ds.map (·.1.table)

section
variable {b : Option Buckets} {d : Family × ℕ} {ds : List (Family × ℕ)} {s : Statement}
  {stages : List Statement}

theorem ReadsDevice.reads (h : ReadsDevice b d s) : s.reads = [d.1.table] := by
  simp [Statement.reads, h.source, h.joins, Source.reads]

theorem ReadsDevice.isScan (h : ReadsDevice b d s) (hd : d.1 ∈ Family.all) : s.isScan = true := by
  rw [Statement.isScan, h.source]
  exact decide_eq_true (Family.table_mem_houseTables hd)

/-- What reads one device draws on it alone. -/
theorem ReadsDevice.draws (h : ReadsDevice b d s) (hd : d.1 ∈ Family.all) : Draws b [d] s where
  scans := by
    simpa [Statement.scans, Statement.nodes, h.ctes, h.isScan hd] using h
  tables := by
    simpa [Statement.nodes, h.ctes, h.reads] using Family.table_mem_houseTables hd

theorem isScan_of_forall₂ (h : List.Forall₂ (ReadsDevice b) ds stages)
    (hds : ∀ d ∈ ds, d.1 ∈ Family.all) : ∀ t ∈ stages, t.isScan = true := by
  induction h with
  | nil => simp
  | cons hd _ ih =>
    rw [List.forall_mem_cons] at hds ⊢
    exact ⟨hd.isScan hds.1, ih hds.2⟩

theorem tables_of_forall₂ (h : List.Forall₂ (ReadsDevice b) ds stages)
    (hds : ∀ d ∈ ds, d.1 ∈ Family.all) :
    (stages.flatMap Statement.reads).filter (· ∈ houseTables) = ds.map (·.1.table) := by
  induction h with
  | nil => rfl
  | cons hd _ ih =>
    rw [List.forall_mem_cons] at hds
    have htable := Family.table_mem_houseTables hds.1
    simp [hd.reads, htable, ih hds.2]

/-- **Staged scans are all that a statement draws on** if nothing else in it names a table. -/
theorem draws_of_stages (before : List Statement) (hctes : s.ctes = before ++ stages)
    (hstages : List.Forall₂ (ReadsDevice b) ds stages) (hds : ∀ d ∈ ds, d.1 ∈ Family.all)
    (hbefore : ∀ t ∈ before, ∀ r ∈ t.reads, r ∉ houseTables)
    (hs : ∀ r ∈ s.reads, r ∉ houseTables) : Draws b ds s where
  scans := by
    have hfirst : before.filter Statement.isScan = [] :=
      List.filter_eq_nil_iff.2 fun t ht => by simp [Statement.isScan_eq_false (hbefore t ht)]
    have hmiddle : stages.filter Statement.isScan = stages :=
      List.filter_eq_self.2 (isScan_of_forall₂ hstages hds)
    have hlast : [s].filter Statement.isScan = [] := by simp [Statement.isScan_eq_false hs]
    rw [Statement.scans, Statement.nodes, hctes, List.filter_append, List.filter_append, hfirst,
      hmiddle, hlast]
    simpa using hstages
  tables := by
    have hfirst : (before.flatMap Statement.reads).filter (· ∈ houseTables) = [] := by
      refine List.filter_eq_nil_iff.2 fun r hr => ?_
      obtain ⟨t, ht, hr⟩ := List.mem_flatMap.1 hr
      simpa using hbefore t ht r hr
    have hlast : s.reads.filter (· ∈ houseTables) = [] :=
      List.filter_eq_nil_iff.2 fun r hr => by simpa using hs r hr
    rw [Statement.nodes, hctes, List.flatMap_append, List.flatMap_append, List.filter_append,
      List.filter_append, hfirst, tables_of_forall₂ hstages hds, List.flatMap_singleton, hlast]
    simp

/-! ## Joined scans -/

theorem map_relation_onTime {a : String} {rs : List String} :
    (rs.map (Join.onTime a)).map (·.relation) = rs := by
  rw [List.map_map]
  exact List.map_id rs

/-- An alignment draws on the devices that are staged for it. -/
theorem Alignment.draws {x : Alignment} (hstages : List.Forall₂ (ReadsDevice none) ds x.staged)
    (hds : ∀ d ∈ ds, d.1 ∈ Family.all) (hrelations : ∀ r ∈ x.relations, r ∉ houseTables)
    (hjoins : x.joins = x.others.map (Join.onTime x.anchor)) : Draws none ds x.statement := by
  refine draws_of_stages [] rfl hstages hds (by simp) fun r hr => hrelations r ?_
  have hreads : x.statement.reads = x.relations := by
    show (x.anchor :: x.joins.map (·.relation)) ++ [] ++ [] = x.anchor :: x.others
    rw [List.append_nil, List.append_nil, hjoins, map_relation_onTime]
  rwa [← hreads]

/-- Columns over joined scans draw on the devices that are scanned. -/
theorem draws_joinedStatement {fields : List Field} {a : String} {rs : List String}
    (hstages : List.Forall₂ (ReadsDevice none) ds stages) (hds : ∀ d ∈ ds, d.1 ∈ Family.all)
    (hrelations : ∀ r ∈ a :: rs, r ∉ houseTables) :
    Draws none ds (joinedStatement stages fields a rs) := by
  refine draws_of_stages [] rfl hstages hds (by simp) fun r hr => hrelations r ?_
  have hreads : (joinedStatement stages fields a rs).reads = a :: rs := by
    show [a] ++ (rs.map (Join.onTime a)).map (·.relation) = a :: rs
    rw [map_relation_onTime, List.singleton_append]
  rwa [← hreads]

end

/-! ## Statements of a family -/

namespace Family
variable {f : Family} {id : ℕ} {ids rest : List ℕ} {q c : Quantity} {qs : List Quantity}
  {fields : List Field} {channels : List Channel} {s : Statement}

/-- Devices of one family. -/
def devices (f : Family) (ids : List ℕ) : List (Family × ℕ) :=
  ids.map (f, ·)

theorem mem_all_of_mem_devices (hf : f ∈ all) : ∀ d ∈ f.devices ids, d.1 ∈ all := by
  intro d hd
  obtain ⟨id, -, rfl⟩ := List.mem_map.1 hd
  exact hf

theorem nodup_devices (h : ids.Nodup) : (f.devices ids).Nodup :=
  h.map fun _ _ heq => (Prod.mk.inj heq).2

theorem draws_inWindow (hf : f ∈ all) : Draws none (f.devices [id]) (f.scan id fields).inWindow :=
  ReadsDevice.draws ⟨rfl, rfl, rfl, _, rfl, .window⟩ hf

theorem draws_ordered (hf : f ∈ all) :
    Draws none (f.devices [id]) (f.scan id fields).inWindow.ordered :=
  ReadsDevice.draws ⟨rfl, rfl, rfl, _, rfl, .windowInOrder⟩ hf

theorem reads_staged :
    List.Forall₂ (ReadsDevice none) (f.devices ids) (ids.map (f.staged qs)) := by
  rw [devices, List.forall₂_map_left_iff, List.forall₂_map_right_iff]
  exact List.forall₂_same.2 fun id _ => ⟨rfl, rfl, rfl, _, rfl, .window⟩

theorem relations_not_tables (ids : List ℕ) : ∀ r ∈ ids.map f.relation, r ∉ houseTables := by
  intro r hr
  obtain ⟨id, -, rfl⟩ := List.mem_map.1 hr
  exact relation_not_mem_houseTables

theorem draws_aligned (hf : f ∈ all) :
    Draws none (f.devices (id :: rest)) ((f.aligned id rest qs).compute fields).statement :=
  Alignment.draws reads_staged (mem_all_of_mem_devices hf)
    (relations_not_tables (id :: rest)) rfl

theorem draws_joinedOver (hf : f ∈ all) :
    Draws none (f.devices (id :: rest)) (f.joinedOver id rest c fields) :=
  draws_joinedStatement reads_staged (mem_all_of_mem_devices hf)
    (relations_not_tables (id :: rest))

theorem draws_labelled (hf : f ∈ all) (h : f.labelled ids channels = .ok s) :
    Draws none (f.devices ids) s := by
  obtain ⟨-, ⟨id, rfl, rfl⟩ | ⟨id, rest, rfl, rfl⟩⟩ := labelled_cases h
  · exact draws_ordered hf
  · exact draws_aligned hf

/-- Columns of each device, followed by further columns. -/
theorem draws_perDevice (hf : f ∈ all) {x : Alignment} (hx : f.perDevice ids qs = .ok x) :
    Draws none (f.devices ids) (x.compute fields).statement := by
  obtain ⟨-, hx⟩ := perDevice_eq_ok_iff.1 hx
  obtain ⟨id, rest, hids, -, rfl⟩ := PerDevice.alignment_eq_ok_iff.1 hx
  dsimp only at hids
  subst hids
  rw [Alignment.compute_compute]
  exact draws_aligned hf

theorem draws_total (hf : f ∈ all) (h : f.total ids q = .ok s) : Draws none (f.devices ids) s := by
  obtain ⟨-, ⟨id, rfl, rfl⟩ | ⟨id, rest, rfl, rfl⟩⟩ := total_cases h
  · exact draws_ordered hf
  · exact draws_aligned hf

theorem draws_windowEach (hf : f ∈ all) (h : f.windowEach ids q = .ok s) :
    Draws none (f.devices ids) s := by
  obtain ⟨-, ⟨id, rfl, rfl⟩ | ⟨c, id, rest, -, -, rfl, rfl⟩⟩ := windowEach_cases h
  · exact draws_inWindow hf
  · exact draws_joinedOver hf

theorem draws_windowTotal (hf : f ∈ all) (h : f.windowTotal ids q = .ok s) :
    Draws none (f.devices ids) s := by
  obtain ⟨-, ⟨id, rfl, rfl⟩ | ⟨c, id, rest, -, -, rfl, rfl⟩⟩ := windowTotal_cases h
  · exact draws_inWindow hf
  · exact draws_joinedOver hf

end Family

section
variable {ids : List ℕ} {labels : List String} {s : Statement}

theorem Weather.draws_temperatures (h : Weather.temperatures ids labels = .ok s) :
    Draws none (Family.weather.devices ids) s := by
  unfold Weather.temperatures at h
  split at h
  · simp at h
  · exact Family.draws_labelled (by decide) h

theorem Generator.draws_heat (h : Generator.heat ids = .ok s) :
    Draws none (Family.generator.devices ids) s := by
  have hf : Family.generator ∈ Family.all := by decide
  unfold Generator.heat at h
  split at h
  · exact Family.draws_labelled hf h
  · simp only [Fallible.bind_eq_ok, Fallible.pure_eq_ok] at h
    obtain ⟨x, hx, _, -, rfl⟩ := h
    exact Family.draws_perDevice hf hx

theorem Heatpump.draws_all (h : Heatpump.all ids = .ok s) :
    Draws none (Family.heatpump.devices ids) s := by
  have hf : Family.heatpump ∈ Family.all := by decide
  unfold Heatpump.all at h
  dsimp only at h
  split at h
  · exact Family.draws_labelled hf h
  · simp only [Fallible.bind_eq_ok, Fallible.pure_eq_ok] at h
    obtain ⟨x, hx, _, -, _, -, _, -, rfl⟩ := h
    exact Family.draws_perDevice hf hx

end

/-! ## Combinations -/

namespace Combination
variable {c : Combination} {a label : String} {rs : List String} {fields : List Field}
  {s : Statement}

/-- The devices of a combination are those of its contributions; one without devices adds none. -/
theorem devices_eq_flatMap : c.devices = c.contributions.flatMap fun s => s.family.devices s.ids := by
  have hactive : c.devices = c.active.flatMap fun s => s.family.devices s.ids := by
    rw [devices, ← flatMap_active fun s id => (s.family, id)]
    rfl
  rw [hactive, active]
  induction c.contributions with
  | nil => rfl
  | cons s contributions ih =>
    rw [List.flatMap_cons, ← ih]
    cases h : s.ids with
    | nil => simp [h, Family.devices]
    | cons id ids => simp [h]

theorem devices_ne_nil_iff : c.devices ≠ [] ↔ c.active ≠ [] := by
  simp [devices_eq_flatMap, active, Family.devices, List.filter_eq_nil_iff]

theorem mem_all_of_mem_devices (hf : ∀ s ∈ c.active, s.family ∈ Family.all) :
    ∀ d ∈ c.devices, d.1 ∈ Family.all := by
  intro d hd
  obtain ⟨p, hp, rfl⟩ := List.mem_map.1 hd
  exact hf p.1 (mem_active_of_mem_members hp)

theorem reads_staged :
    List.Forall₂ (ReadsDevice none) c.devices (c.active.flatMap stagedOf) := by
  rw [flatMap_stagedOf, devices, List.forall₂_map_left_iff, List.forall₂_map_right_iff]
  exact List.forall₂_same.2 fun p _ => ⟨rfl, rfl, rfl, _, rfl, .window⟩

theorem relations_not_tables (hr : c.relations = a :: rs) : ∀ r ∈ a :: rs, r ∉ houseTables := by
  rw [← hr, relations_eq_map_devices]
  intro r hr
  obtain ⟨d, -, rfl⟩ := List.mem_map.1 hr
  exact Family.relation_not_mem_houseTables

theorem draws_aligned (hf : ∀ s ∈ c.active, s.family ∈ Family.all) (hr : c.relations = a :: rs) :
    Draws none c.devices ((c.aligned a rs).compute fields).statement :=
  Alignment.draws reads_staged (mem_all_of_mem_devices hf) (relations_not_tables hr) rfl

/-- The only device of a combination. -/
theorem devices_of_single {t : Contribution} {id : ℕ} (h : c.single? = some (t, id)) :
    c.devices = t.family.devices [id] := by
  obtain ⟨hactive, hids, -⟩ := single?_eq_some h
  simp [devices, members, hactive, hids, Family.devices]

theorem draws_total (hf : ∀ s ∈ c.active, s.family ∈ Family.all) (h : c.total label = .ok s) :
    Draws none c.devices s := by
  cases hsingle : c.single? with
  | some p =>
    obtain ⟨t, id⟩ := p
    obtain ⟨-, -, rfl⟩ := (total_eq_ok_iff_of_single hsingle).1 h
    rw [devices_of_single hsingle]
    exact Family.draws_ordered (hf t (by simp [(single?_eq_some hsingle).1]))
  | none =>
    obtain ⟨-, a, rs, hr, rfl⟩ := (total_eq_ok_iff hsingle).1 h
    exact draws_aligned hf hr

theorem draws_windowTotal (hf : ∀ s ∈ c.active, s.family ∈ Family.all)
    (h : c.windowTotal label = .ok s) : Draws none c.devices s := by
  cases hsingle : c.single? with
  | some p =>
    obtain ⟨t, id⟩ := p
    obtain ⟨-, -, rfl⟩ := (windowTotal_eq_ok_iff_of_single hsingle).1 h
    rw [devices_of_single hsingle]
    exact Family.draws_inWindow (hf t (by simp [(single?_eq_some hsingle).1]))
  | none =>
    obtain ⟨-, a, rs, hr, rfl⟩ := (windowTotal_eq_ok_iff hsingle).1 h
    exact draws_joinedStatement reads_staged (mem_all_of_mem_devices hf) (relations_not_tables hr)

end Combination

namespace Heating
variable {heatpumps generators : List ℕ} {q : Quantity} {also : List Quantity} {s : Statement}

theorem family_mem_all :
    ∀ s ∈ (combination heatpumps generators q also).active, s.family ∈ Family.all := by
  intro s hs
  obtain rfl | rfl := by simpa [combination] using (List.mem_filter.1 hs).1
  · exact (by decide : Family.heatpump ∈ Family.all)
  · exact (by decide : Family.generator ∈ Family.all)

/-- Of several devices the joined scans are read, whatever the columns over them are. -/
theorem draws_aligned (h : (do
    let a ← (combination heatpumps generators .heat [.cop]).alignment
    return (a.compute [← (combination heatpumps generators .heat [.cop]).sumField "heat_w",
      ← Heatpump.copField heatpumps]).statement : Composed Statement) = .ok s) :
    Draws none (combination heatpumps generators .heat [.cop]).devices s := by
  simp only [Fallible.bind_eq_ok, Fallible.pure_eq_ok, Combination.alignment_eq_ok_iff] at h
  obtain ⟨_, ⟨-, a, rs, hr, rfl⟩, _, -, _, -, rfl⟩ := h
  exact Combination.draws_aligned family_mem_all hr

theorem draws_heat (h : heat heatpumps generators = .ok s) :
    Draws none (combination heatpumps generators .heat [.cop]).devices s := by
  match heatpumps, generators with
  | [], generators => exact Combination.draws_total family_mem_all h
  | [id], [] =>
    simp only [heat, Fallible.bind_eq_ok, Fallible.pure_eq_ok] at h
    obtain ⟨_, -, _, -, rfl⟩ := h
    exact Family.draws_ordered (by decide : Family.heatpump ∈ Family.all)
  | [id], i :: generators => exact draws_aligned h
  | i :: j :: heatpumps, generators => exact draws_aligned h

end Heating

/-! ## Buckets -/

namespace Buckets
variable {b : Buckets} {f : Family} {ids : List ℕ} {q : Quantity} {e : Entry}
  {fields : List Field} {s : Statement}

/-- The readings of each device are staged over the span that the buckets look up. -/
theorem reads_stages :
    List.Forall₂ (ReadsDevice (some b)) (f.devices ids) (ids.map fun id => b.stage f id e) := by
  rw [Family.devices, List.forall₂_map_left_iff, List.forall₂_map_right_iff]
  exact List.forall₂_same.2 fun id _ => ⟨rfl, rfl, rfl, _, rfl, .span b⟩

theorem draws_selected (hf : f ∈ Family.all) :
    Draws (some b) (f.devices ids) (b.selected f ids e fields) := by
  refine draws_of_stages [b.statement] rfl reads_stages
    (Family.mem_all_of_mem_devices hf) (by simp [statement, Statement.reads, Source.reads])
    fun r hr => ?_
  have hreads : r = relation ∨ r ∈ (ids.flatMap (b.lookups f)).map (·.relation) := by
    simpa [selected, Statement.reads, Source.reads] using hr
  rcases hreads with rfl | hr
  · decide
  · obtain ⟨j, hj, rfl⟩ := List.mem_map.1 hr
    obtain ⟨id, -, hj⟩ := List.mem_flatMap.1 hj
    rw [map_relation_lookups j hj]
    exact Family.relation_not_mem_houseTables

theorem draws_total (hf : f ∈ Family.all) (h : b.total f ids q = .ok s) :
    Draws (some b) (f.devices ids) s := by
  obtain ⟨-, c, -, -, -, -, rfl⟩ := total_eq_ok_iff.1 h
  exact draws_selected hf

end Buckets

end EnergyQuery
