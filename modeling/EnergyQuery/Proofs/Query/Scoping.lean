/-
  The names in the statements of a family stand for something.

  * `staging_scans`: the scans of distinct devices are staged relations, each of
    which offers the time and the columns of its quantities;
  * `Alignment.wellScoped`, `wellScoped_joinedStatement`: a statement over staged
    relations is well scoped if its computed columns are;
  * `Family.wellScoped_labelled`, `Family.wellScoped_total`, ..: so are the
    statements of a family, whenever they can be composed.
-/
import EnergyQuery.Proofs.Device.Naming
import EnergyQuery.Proofs.Query.Composition
import EnergyQuery.Proofs.Sql.Scoping

namespace EnergyQuery

open Sql

/-- The tables of a house. -/
def houseTables : List String :=
  Family.all.map (·.table)

/-! ## Scans -/

namespace Family
variable {f : Family} {id : ℕ} {q : Quantity} {qs : List Quantity} {fields : List Field}
  {P : String → String → Prop}

/-- No catalog entry of a house has a qualified column. -/
theorem refsIn_entry : ∀ f ∈ all, ∀ e ∈ f.catalog, e.expr.RefsIn P := by
  simp [all, solar, generator, heatpump, battery, meter, wallbox, bidirMeter, boiler, weather,
    metering, Catalog.metered, Catalog.span, Catalog.heatFactor, Entry.physical, Expr.RefsIn]

theorem refsIn_catalogEntry (hf : f ∈ all) (hq : f.Declares q) :
    (f.catalogEntry q).expr.RefsIn P :=
  refsIn_entry f hf _ (catalogEntry_mem hq)

theorem table_mem_houseTables (hf : f ∈ all) : f.table ∈ houseTables :=
  List.mem_map_of_mem hf

theorem relation_not_mem_houseTables : f.relation id ∉ houseTables := by
  intro h
  obtain ⟨g, hg, hgf⟩ := List.mem_map.1 h
  exact relation_ne_table hg hgf.symm

theorem isScan_inWindow (hf : f ∈ all) (h : ∀ x ∈ fields, x.expr.RefsIn fun _ _ => False) :
    (f.scan id fields).inWindow.IsScan houseTables [] where
  ctes := rfl
  joins := rfl
  source := .inl ⟨f.table, rfl, .inl (table_mem_houseTables hf)⟩
  fields := h
  clauses c hc := by
    obtain rfl | rfl | rfl : c = .device id ∨ c = .conjunction ∨ c = .inWindow .selected := by
      simpa [scan, Statement.inWindow, Statement.restrict] using hc
    all_goals trivial

theorem isScan_ordered (hf : f ∈ all) (h : ∀ x ∈ fields, x.expr.RefsIn fun _ _ => False) :
    (f.scan id fields).inWindow.ordered.IsScan houseTables [] where
  ctes := rfl
  joins := rfl
  source := .inl ⟨f.table, rfl, .inl (table_mem_houseTables hf)⟩
  fields := h
  clauses c hc := by
    rcases List.mem_append.1 hc with hc | hc
    · exact (isScan_inWindow hf h).clauses c hc
    · obtain rfl : c = .orderedByTime := by simpa using hc
      trivial

theorem isScan_staged (hf : f ∈ all) (hq : ∀ q ∈ qs, f.Declares q) :
    (f.staged qs id).IsScan houseTables [] := by
  refine isScan_inWindow hf fun x hx => ?_
  rcases List.mem_cons.1 hx with rfl | hx
  · trivial
  · obtain ⟨q, hqs, rfl⟩ := List.mem_map.1 hx
    exact refsIn_catalogEntry hf (hq q hqs)

/-- One column of a device over the selected window. -/
theorem wellScoped_single {n : Name} (hf : f ∈ all) (hq : f.Declares q) :
    WellScoped houseTables (f.scan id [⟨(f.catalogEntry q).expr, n⟩]).inWindow := by
  refine (isScan_inWindow hf fun x hx => ?_).wellScoped
  obtain rfl := List.mem_singleton.1 hx
  exact refsIn_catalogEntry hf hq

/-- One column of a device in the order of time. -/
theorem wellScoped_single_ordered {n : Name} (hf : f ∈ all) (hq : f.Declares q) :
    WellScoped houseTables (f.scan id [.time, ⟨(f.catalogEntry q).expr, n⟩]).inWindow.ordered := by
  refine (isScan_ordered hf fun x hx => ?_).wellScoped
  obtain rfl | rfl := by simpa using hx
  · trivial
  · exact refsIn_catalogEntry hf hq

/-- A staged relation offers the time and the columns of its quantities. -/
theorem columns_staged :
    (f.staged qs id).columns = timeColumn :: qs.map fun q => (f.catalogEntry q).column := by
  show timeColumn :: (qs.map fun q => (f.catalogEntry q).field).map (·.name.identifier) = _
  rw [List.map_map]
  rfl

end Family

section
variable {α : Type} {l : List α} {F : α → Family} {Q : α → List Quantity} {I : α → ℕ}

/-- **The scans of distinct devices are staged relations.** -/
theorem staging_scans (hF : ∀ x ∈ l, F x ∈ Family.all)
    (hQ : ∀ x ∈ l, ∀ q ∈ Q x, (F x).Declares q)
    (hn : (l.map fun x => (F x).relation (I x)).Nodup) :
    Staging houseTables (l.map fun x => (F x).staged (Q x) (I x))
      (l.map fun x => (F x).relation (I x)) where
  names := by
    rw [List.map_map, List.map_map]
    rfl
  nodup := hn
  not_table r hr := by
    obtain ⟨x, -, rfl⟩ := List.mem_map.1 hr
    exact Family.relation_not_mem_houseTables
  scans t ht := by
    obtain ⟨x, hx, rfl⟩ := List.mem_map.1 ht
    exact Family.isScan_staged (hF x hx) (hQ x hx)
  time t ht := by
    obtain ⟨x, -, rfl⟩ := List.mem_map.1 ht
    rw [Family.columns_staged]
    simp

theorem offers_scans {x : α} {q : Quantity} (hx : x ∈ l) (hq : q ∈ Q x) :
    Offers (l.map fun x => (F x).staged (Q x) (I x)) ((F x).relation (I x))
      ((F x).catalogEntry q).column := by
  refine ⟨_, List.mem_map_of_mem hx, rfl, ?_⟩
  rw [Family.columns_staged]
  exact List.mem_cons_of_mem _ (List.mem_map_of_mem hq)

end

/-! ## Statements over staged relations -/

/-- Where names are distinct, each of them is the name of one field. -/
theorem length_filter_name_eq_one {fields : List Field}
    (hn : (fields.map (·.name.identifier)).Nodup) {f : Field} (hf : f ∈ fields) :
    (fields.filter fun g => g.name.identifier == f.name.identifier).length = 1 := by
  have hcount : (fields.filter fun g => g.name.identifier == f.name.identifier).length =
      (fields.map (·.name.identifier)).count f.name.identifier := by
    rw [List.count_eq_length_filter, List.filter_map, List.length_map]
    rfl
  rw [hcount]
  exact List.count_eq_one_of_mem hn (List.mem_map_of_mem hf)

theorem Alignment.compute_compute {x : Alignment} {fs gs : List Field} :
    (x.compute fs).compute gs = x.compute (fs ++ gs) := by
  simp [Alignment.compute]

/-- **An alignment is well scoped** if its relations are staged, its columns are there, and their
    names are distinct. -/
theorem Alignment.wellScoped {x : Alignment}
    (h : Staging houseTables x.staged (x.anchor :: x.others))
    (hjoins : x.joins = x.others.map (Join.onTime x.anchor))
    (hfields : ∀ f ∈ x.fields, f.expr.RefsIn (Offers x.staged))
    (hnames : (x.fields.map (·.name.identifier)).Nodup)
    (htime : ∀ f ∈ x.fields, f.name.identifier ≠ timeColumn) :
    WellScoped houseTables x.statement := by
  have htimeName : (timeOf x.anchor x.others).name.identifier = timeColumn :=
    congrArg Name.identifier name_timeOf
  have hoffers : ∀ r ∈ x.anchor :: x.others, Offers x.staged r timeColumn := by
    intro r hr
    have hname : some r ∈ x.staged.map (·.name) := by
      rw [h.names]
      exact List.mem_map_of_mem hr
    obtain ⟨t, ht, hname⟩ := List.mem_map.1 hname
    exact ⟨t, ht, hname, h.time t ht⟩
  have hinner : ∀ f ∈ timeOf x.anchor x.others :: x.fields, f.expr.RefsIn (Offers x.staged) := by
    intro f hf
    rcases List.mem_cons.1 hf with rfl | hf
    · cases hothers : x.others with
      | nil => exact hoffers x.anchor (by simp)
      | cons r rs => exact fun s hs => hoffers s (hothers ▸ hs)
    · exact hfields f hf
  have hdistinct : ((timeOf x.anchor x.others :: x.fields).map (·.name.identifier)).Nodup := by
    rw [List.map_cons, htimeName, List.nodup_cons]
    refine ⟨fun hmem => ?_, hnames⟩
    obtain ⟨f, hf, hft⟩ := List.mem_map.1 hmem
    exact htime f hf hft
  have hchain : x.statement.chain? = some ⟨timeOf x.anchor x.others :: x.fields, x.anchor,
      x.others.map (Join.onTime x.anchor)⟩ := by
    show some x.inner = _
    rw [Alignment.inner, hjoins]
  refine h.wellScoped rfl hchain hinner ?_ ?_
  · intro c hc
    obtain rfl | rfl : c = .timePresent none ∨ c = .orderedByTime := by
      simpa [statement, Statement.timePresent, Statement.ordered, Statement.restrict] using hc
    all_goals trivial
  · intro c name hsource
    obtain ⟨rfl, -⟩ : x.inner = c ∧ derivedName = name := by
      simpa [statement, Statement.timePresent, Statement.ordered, Statement.restrict,
        source] using hsource
    refine ⟨rfl, fun f hf => ?_⟩
    rcases List.mem_cons.1 hf with rfl | hf
    -- The outer select takes up the names of the derived table, each of which stands there once.
    · refine ⟨rfl, ?_⟩
      have hone := length_filter_name_eq_one hdistinct List.mem_cons_self
      rwa [htimeName] at hone
    · obtain ⟨g, hg, rfl⟩ := List.mem_map.1 hf
      exact ⟨rfl, length_filter_name_eq_one (f := g) hdistinct (List.mem_cons_of_mem _ hg)⟩

theorem wellScoped_joinedStatement {ctes : List Statement} {fields : List Field} {a : String}
    {rs : List String} (h : Staging houseTables ctes (a :: rs))
    (hfields : ∀ f ∈ fields, f.expr.RefsIn (Offers ctes)) :
    WellScoped houseTables (joinedStatement ctes fields a rs) :=
  h.wellScoped rfl rfl hfields (by simp [joinedStatement]) (by simp [joinedStatement])

/-! ## Statements of a family -/

namespace Family
variable {f : Family} {id : ℕ} {ids rest : List ℕ} {q c : Quantity} {qs : List Quantity}
  {fields : List Field} {channels : List Channel} {s : Statement}

theorem staging_aligned (hf : f ∈ all) (hn : (id :: rest).Nodup) (hq : ∀ q ∈ qs, f.Declares q) :
    Staging houseTables ((id :: rest).map (f.staged qs)) (f.relation id :: rest.map f.relation) :=
  staging_scans (l := id :: rest) (F := fun _ => f) (Q := fun _ => qs) (I := fun i => i)
    (fun _ _ => hf) (fun _ _ => hq) (nodup_map_relation hn)

theorem offers_aligned {i : ℕ} (hi : i ∈ ids) (hq : q ∈ qs) :
    Offers (ids.map (f.staged qs)) (f.relation i) (f.catalogEntry q).column :=
  offers_scans (F := fun _ => f) (Q := fun _ => qs) (I := fun i => i) hi hq

/-- An alignment of the devices of a family is well scoped if its computed columns are. -/
theorem wellScoped_aligned (hf : f ∈ all) (hn : (id :: rest).Nodup)
    (hq : ∀ q ∈ qs, f.Declares q)
    (hfields : ∀ x ∈ fields, x.expr.RefsIn (Offers ((id :: rest).map (f.staged qs))))
    (hnames : (fields.map (·.name.identifier)).Nodup)
    (htime : ∀ x ∈ fields, x.name.identifier ≠ timeColumn) :
    WellScoped houseTables ((f.aligned id rest qs).compute fields).statement :=
  Alignment.wellScoped (staging_aligned hf hn hq) rfl hfields hnames htime

/-! ### Columns over several devices -/

theorem refsIn_sumOf {P : String → String → Prop} {e : Entry} (hids : ids ≠ [])
    (h : ∀ i ∈ ids, P (f.relation i) e.column) : (f.sumOf ids e).RefsIn P := by
  match ids, hids with
  | [i], _ => exact h i (by simp)
  | i :: j :: rest, _ =>
    refine Expr.refsIn_sum (by simp) fun x hx => ?_
    obtain ⟨k, hk, rfl⟩ := List.mem_map.1 hx
    exact h k hk

theorem refsIn_averageOf {P : String → String → Prop} {e : Entry} {threshold : Expr}
    (hids : ids ≠ []) (h : ∀ i ∈ ids, P (f.relation i) e.column) (ht : threshold.RefsIn P) :
    (f.averageOf ids e threshold).RefsIn P := by
  match ids, hids with
  | [i], _ => exact h i (by simp)
  | i :: j :: rest, _ =>
    refine ⟨refsIn_sumOf (by simp) h, Expr.refsIn_sum (by simp) fun x hx => ?_⟩
    obtain ⟨k, hk, rfl⟩ := List.mem_map.1 hx
    exact ⟨h k hk, ht⟩

theorem refsIn_spanOf {P : String → String → Prop} {e : Entry} (hids : ids ≠ [])
    (h : ∀ i ∈ ids, P (f.relation i) e.column) : (f.spanOf ids e).RefsIn P := by
  match ids, hids with
  | [i], _ => exact ⟨h i (by simp), h i (by simp)⟩
  | i :: j :: rest, _ =>
    refine Expr.refsIn_spanSum (by simp) fun x hx => ?_
    obtain ⟨k, hk, rfl⟩ := List.mem_map.1 hx
    exact h k hk

/-! ### Columns of each device -/

/-- The columns of distinct channels have distinct names. -/
theorem nodup_names_fields {p : PerDevice} (hn : p.ids.Nodup)
    (hl : (p.channels.map p.family.channelLabel).Nodup) :
    (p.fields.map (·.name.identifier)).Nodup := by
  have hnames : p.fields.map (·.name.identifier) = p.ids.flatMap fun id =>
      (p.channels.map p.family.channelLabel).map fun l => p.family.relation id ++ "." ++ l := by
    rw [PerDevice.fields, List.map_flatMap]
    refine List.flatMap_congr fun id _ => ?_
    rw [List.map_map, List.map_map]
    rfl
  rw [hnames, List.nodup_flatMap]
  refine ⟨fun id _ => hl.map fun l k h => (deviceLabel_inj.1 h).2, ?_⟩
  refine hn.imp fun {i j} hij => ?_
  intro name hi hj
  obtain ⟨l, -, rfl⟩ := List.mem_map.1 hi
  obtain ⟨k, -, hk⟩ := List.mem_map.1 hj
  exact hij (deviceLabel_inj.1 hk).1.symm

theorem mem_fields_iff {p : PerDevice} {x : Field} :
    x ∈ p.fields ↔ ∃ id ∈ p.ids, ∃ c ∈ p.channels,
      x = p.family.deviceField id (p.family.catalogEntry c.quantity) c.label := by
  simp [PerDevice.fields, List.mem_flatMap, eq_comm]

theorem refsIn_fields {p : PerDevice} :
    ∀ x ∈ p.fields, x.expr.RefsIn (Offers (p.ids.map (p.family.staged p.quantities))) := by
  intro x hx
  obtain ⟨id, hid, c, hc, rfl⟩ := mem_fields_iff.1 hx
  exact offers_aligned hid (List.mem_eraseDups.2 (List.mem_map_of_mem hc))

theorem time_not_name_fields {p : PerDevice} : ∀ x ∈ p.fields, x.name.identifier ≠ timeColumn := by
  intro x hx
  obtain ⟨id, -, c, -, rfl⟩ := mem_fields_iff.1 hx
  exact time_ne_label.symm

theorem wellScoped_labelled (hf : f ∈ all) (hn : ids.Nodup)
    (hl : (channels.map f.channelLabel).Nodup) (h : f.labelled ids channels = .ok s) :
    WellScoped houseTables s := by
  obtain ⟨hc, ⟨id, rfl, rfl⟩ | ⟨id, rest, rfl, rfl⟩⟩ := labelled_cases h
  · refine (isScan_ordered hf fun x hx => ?_).wellScoped
    rcases List.mem_cons.1 hx with rfl | hx
    · trivial
    · obtain ⟨c, hmem, rfl⟩ := List.mem_map.1 hx
      exact refsIn_catalogEntry hf (hc c hmem).2
  · have hq := (PerDevice.declares_quantities_iff (p := ⟨f, id :: rest, channels⟩)).2
      fun c hmem => (hc c hmem).2
    exact wellScoped_aligned hf hn hq refsIn_fields (nodup_names_fields hn hl) time_not_name_fields

/-- The channels of distinct quantities. -/
theorem nodup_channelLabel (hf : f ∈ all) (hq : qs.Nodup) (hd : ∀ q ∈ qs, f.Declares q) :
    ((qs.map ({ quantity := · } : Quantity → Channel)).map f.channelLabel).Nodup := by
  rw [List.map_map]
  refine List.Nodup.map_on (fun q hq c hc h => ?_) hq
  exact column_catalogEntry_inj hf (hd q hq) (hd c hc) h

theorem wellScoped_each (hf : f ∈ all) (hn : ids.Nodup) (hq : qs.Nodup)
    (hd : ∀ q ∈ qs, f.Declares q) (h : f.each ids qs = .ok s) : WellScoped houseTables s :=
  wellScoped_labelled hf hn (nodup_channelLabel hf hq hd) h

/-- The columns of devices and those of their whole family have distinct names. -/
theorem nodup_names_beside {p : PerDevice} (hn : p.ids.Nodup)
    (hl : (p.channels.map p.family.channelLabel).Nodup) (extra : List (Expr × String))
    (hlabels : (extra.map (·.2)).Nodup) :
    ((p.fields ++ extra.map fun y => (⟨y.1, p.family.familyName y.2⟩ : Field)).map
      (·.name.identifier)).Nodup := by
  have hnames : (extra.map fun y => (⟨y.1, p.family.familyName y.2⟩ : Field)).map
      (·.name.identifier) = (extra.map (·.2)).map fun l => p.family.basename ++ "." ++ l := by
    rw [List.map_map, List.map_map]
    rfl
  rw [List.map_append, hnames, List.nodup_append]
  refine ⟨nodup_names_fields hn hl, hlabels.map fun l k h => familyLabel_inj.1 h, ?_⟩
  rintro n hn m hm rfl
  obtain ⟨y, hy, rfl⟩ := List.mem_map.1 hn
  obtain ⟨i, -, c, -, rfl⟩ := mem_fields_iff.1 hy
  obtain ⟨l, -, hln⟩ := List.mem_map.1 hm
  exact familyLabel_ne_deviceLabel hln

/-- Columns of each device, followed by columns of the whole family. -/
theorem wellScoped_perDevice (hf : f ∈ all) (hn : ids.Nodup) (hq : qs.Nodup)
    (hd : ∀ q ∈ qs, f.Declares q) {x : Alignment} (hx : f.perDevice ids qs = .ok x)
    (extra : List (Expr × String)) (hlabels : (extra.map (·.2)).Nodup)
    (hrefs : ∀ y ∈ extra, y.1.RefsIn (Offers (ids.map (f.staged qs.eraseDups)))) :
    WellScoped houseTables
      (x.compute (extra.map fun y => ⟨y.1, f.familyName y.2⟩)).statement := by
  obtain ⟨-, hx⟩ := perDevice_eq_ok_iff.1 hx
  obtain ⟨id, rest, hids, hdeclared, rfl⟩ := PerDevice.alignment_eq_ok_iff.1 hx
  dsimp only at hids hdeclared
  subst hids
  have hquantities : (PerDevice.mk f (id :: rest)
      (qs.map ({ quantity := · } : Quantity → Channel))).quantities = qs.eraseDups := by
    rw [PerDevice.quantities, List.map_map]
    exact congrArg List.eraseDups (List.map_id qs)
  have hextra {y : Field} (hy : y ∈ extra.map fun y => (⟨y.1, f.familyName y.2⟩ : Field)) :
      ∃ z ∈ extra, ⟨z.1, f.familyName z.2⟩ = y := List.mem_map.1 hy
  rw [Alignment.compute_compute]
  refine wellScoped_aligned hf hn hdeclared (fun y hy => ?_)
    (nodup_names_beside hn (nodup_channelLabel hf hq hd) extra hlabels) fun y hy => ?_
  · rcases List.mem_append.1 hy with hy | hy
    · exact refsIn_fields y hy
    · obtain ⟨z, hz, rfl⟩ := hextra hy
      rw [hquantities]
      exact hrefs z hz
  · rcases List.mem_append.1 hy with hy | hy
    · exact time_not_name_fields y hy
    · obtain ⟨z, -, rfl⟩ := hextra hy
      exact time_ne_label.symm

/-! ### Columns of the whole family -/

theorem wellScoped_total (hf : f ∈ all) (hn : ids.Nodup) (h : f.total ids q = .ok s) :
    WellScoped houseTables s := by
  obtain ⟨⟨-, hd⟩, ⟨id, rfl, rfl⟩ | ⟨id, rest, rfl, rfl⟩⟩ := total_cases h
  · exact wellScoped_single_ordered hf hd
  · refine wellScoped_aligned hf hn (by simpa using hd) ?_ (by simp) ?_
    · intro x hx
      obtain rfl := List.mem_singleton.1 hx
      exact refsIn_sumOf (by simp) fun k hk => offers_aligned hk (by simp)
    · intro x hx
      obtain rfl := List.mem_singleton.1 hx
      exact time_ne_label.symm

theorem wellScoped_joinedOver (hf : f ∈ all) (hn : (id :: rest).Nodup) (hc : f.Declares c)
    (hfields : ∀ x ∈ fields, x.expr.RefsIn (Offers ((id :: rest).map (f.staged [c])))) :
    WellScoped houseTables (f.joinedOver id rest c fields) :=
  wellScoped_joinedStatement (staging_aligned hf hn (by simpa using hc)) hfields

theorem wellScoped_windowEach (hf : f ∈ all) (hn : ids.Nodup) (h : f.windowEach ids q = .ok s) :
    WellScoped houseTables s := by
  obtain ⟨hd, ⟨id, rfl, rfl⟩ | ⟨c, id, rest, -, hc, rfl, rfl⟩⟩ := windowEach_cases h
  · exact wellScoped_single hf hd
  · refine wellScoped_joinedOver hf hn hc fun x hx => ?_
    obtain ⟨k, hk, rfl⟩ := List.mem_map.1 hx
    refine refsIn_spanOf (List.cons_ne_nil k []) fun k' hk' => ?_
    obtain rfl := List.mem_singleton.1 hk'
    exact offers_aligned hk (by simp)

theorem wellScoped_windowTotal (hf : f ∈ all) (hn : ids.Nodup) (h : f.windowTotal ids q = .ok s) :
    WellScoped houseTables s := by
  obtain ⟨hd, ⟨id, rfl, rfl⟩ | ⟨c, id, rest, -, hc, rfl, rfl⟩⟩ := windowTotal_cases h
  · exact wellScoped_single hf hd
  · refine wellScoped_joinedOver hf hn hc fun x hx => ?_
    obtain rfl := List.mem_singleton.1 hx
    exact refsIn_spanOf (by simp) fun k hk => offers_aligned hk (by simp)

end Family

/-! ## Statements with columns of devices and of their family -/

section
variable {ids : List ℕ} {s : Statement}

theorem Generator.wellScoped_heat (hn : ids.Nodup) (h : Generator.heat ids = .ok s) :
    WellScoped houseTables s := by
  have hf : Family.generator ∈ Family.all := by decide
  have hd : ∀ q ∈ [Quantity.heat], Family.generator.Declares q := by decide
  unfold Generator.heat at h
  split at h
  · exact Family.wellScoped_each hf hn (by decide) hd h
  · simp only [Fallible.bind_eq_ok, Fallible.pure_eq_ok, Family.heatField,
      Family.sumField_eq_ok_iff] at h
    obtain ⟨x, hx, _, ⟨hids, -, rfl⟩, rfl⟩ := h
    refine Family.wellScoped_perDevice hf hn (by decide) hd hx
      [(Family.generator.sumOf ids (Family.generator.catalogEntry .heat), "heat_w")]
      (by simp) fun y hy => ?_
    obtain rfl := List.mem_singleton.1 hy
    exact Family.refsIn_sumOf hids fun k hk => Family.offers_aligned hk (by decide)

theorem Heatpump.wellScoped_all (hn : ids.Nodup) (h : Heatpump.all ids = .ok s) :
    WellScoped houseTables s := by
  have hf : Family.heatpump ∈ Family.all := by decide
  have hd : ∀ q ∈ [Quantity.power, .heat, .cop], Family.heatpump.Declares q := by decide
  unfold Heatpump.all at h
  dsimp only at h
  split at h
  · exact Family.wellScoped_each hf hn (by decide) hd h
  · simp only [Fallible.bind_eq_ok, Fallible.pure_eq_ok, Family.powerField, Family.heatField,
      Family.sumField_eq_ok_iff, Heatpump.copField, Family.average_eq_ok_iff] at h
    obtain ⟨x, hx, _, ⟨hids, -, rfl⟩, _, ⟨-, -, rfl⟩, _, ⟨_, ⟨-, -, rfl⟩, rfl⟩, rfl⟩ := h
    refine Family.wellScoped_perDevice hf hn (by decide) hd hx
      [(Family.heatpump.sumOf ids (Family.heatpump.catalogEntry .power), "power_w"),
        (Family.heatpump.sumOf ids (Family.heatpump.catalogEntry .heat), "heat_w"),
        (Family.heatpump.averageOf ids (Family.heatpump.catalogEntry .cop) idleRatio, "cop")]
      (by simp) fun y hy => ?_
    simp only [List.mem_cons, List.not_mem_nil, or_false] at hy
    rcases hy with rfl | rfl | rfl
    · exact Family.refsIn_sumOf hids fun k hk => Family.offers_aligned hk (by decide)
    · exact Family.refsIn_sumOf hids fun k hk => Family.offers_aligned hk (by decide)
    · exact Family.refsIn_averageOf hids
        (fun k hk => Family.offers_aligned hk (by decide)) trivial

end

end EnergyQuery
