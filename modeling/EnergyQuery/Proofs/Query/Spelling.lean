/-
  The statements of one family can be composed, and are spelled.

  Relations and columns of a house are words, and output names join two of them
  by a point.  `Admits N L` says that these names are in `N` and the fixed
  literals in `L`.

  * `Family.spelled_staged`, `spelled_joinedStatement`,
    `Alignment.Spelled.statement`: the forms that statements take;
  * `Composes N L x`: composing `x` succeeds, with a spelled statement;
  * `Family.composes_labelled`, `Family.composes_total`,
    `Family.composes_windowTotal`, ..: so it is for every builder, where there
    is a device and the quantities are declared and of the right kind.
-/
import EnergyQuery.Proofs.Query.Combining
import EnergyQuery.Proofs.Sql.Spelling

namespace EnergyQuery

open Sql

/-- The literals that every house has in its statements. -/
def houseLiterals : List String :=
  ["hour", "day", "month", "1 hour", "1 day", "1 month", "12 hours"]

/-- `N` holds the names of columns, and `L` the fixed literals. -/
structure Admits (N L : String → Prop) : Prop where
  name : ∀ {a b : String}, IsWord a → IsWord b → N (a ++ "." ++ b)
  literal : ∀ l ∈ houseLiterals, L l

theorem admits_all : Admits (fun _ => True) fun _ => True :=
  ⟨fun _ _ => trivial, fun _ _ => trivial⟩

/-- Composing succeeds, with a spelled statement. -/
def Composes (N L : String → Prop) (x : Composed Statement) : Prop :=
  ∃ s, x = .ok s ∧ s.Spelled N L

section
variable {N L : String → Prop}

/-! ## Columns of a family -/

namespace Family
variable {f : Family} {id : ℕ} {ids rest : List ℕ} {q c : Quantity} {qs : List Quantity}
  {fields : List Field} {n : Name} {label : String} {e : Entry}

theorem spelled_entry : ∀ f ∈ all, ∀ e ∈ f.catalog, e.expr.Spelled N L := by
  simp only [all, solar, generator, heatpump, battery, meter, wallbox, bidirMeter, boiler, weather,
    metering, Catalog.metered, Catalog.span, Catalog.heatFactor, Entry.physical, Expr.Spelled,
    Name.Spelled, List.forall_mem_cons, List.not_mem_nil, IsEmpty.forall_iff,
    implies_true, and_true]
  decide

theorem isWord_entry : ∀ f ∈ all, ∀ e ∈ f.catalog, IsWord e.column := by
  decide

theorem isWord_names : ∀ f ∈ all, IsWord f.basename ∧ IsWord f.table := by
  decide

theorem isWord_relation (hf : f ∈ all) : IsWord (f.relation id) :=
  (isWord_names f hf).1.append isWord_toString

theorem isWord_column (hf : f ∈ all) (hq : f.Declares q) : IsWord (f.catalogEntry q).column :=
  isWord_entry f hf _ (catalogEntry_mem hq)

/-- The staged column of a quantity. -/
theorem spelled_field (hf : f ∈ all) (hq : f.Declares q) :
    (f.catalogEntry q).field.Spelled N L :=
  ⟨spelled_entry f hf _ (catalogEntry_mem hq), isWord_column hf hq⟩

/-- A column that is computed from the table, under an output name. -/
theorem spelled_computed (hf : f ∈ all) (hq : f.Declares q) (hn : n.Spelled N) :
    Field.Spelled N L ⟨(f.catalogEntry q).expr, n⟩ :=
  ⟨(spelled_field hf hq).1, hn⟩

theorem spelled_columnOf (hf : f ∈ all) (he : IsWord e.column) :
    (f.columnOf id e).Spelled N L :=
  ⟨isWord_relation hf, he⟩

/-! ### Several devices -/

theorem spelled_sumOf (hf : f ∈ all) (he : IsWord e.column) (hids : ids ≠ []) :
    (f.sumOf ids e).Spelled N L := by
  have hcolumn : ∀ k, (f.columnOf k e).Spelled N L := fun _ => spelled_columnOf hf he
  match ids, hids with
  | [i], _ => exact hcolumn i
  | i :: j :: rest, _ =>
    refine Expr.spelled_sum (by simp) fun x hx => ?_
    obtain ⟨k, -, rfl⟩ := List.mem_map.1 hx
    exact hcolumn k

theorem spelled_averageOf {threshold : Expr} (hf : f ∈ all) (he : IsWord e.column) (hids : ids ≠ [])
    (ht : threshold.Spelled N L) : (f.averageOf ids e threshold).Spelled N L := by
  have hcolumn : ∀ k, (f.columnOf k e).Spelled N L := fun _ => spelled_columnOf hf he
  match ids, hids with
  | [i], _ => exact hcolumn i
  | i :: j :: rest, _ =>
    refine ⟨spelled_sumOf hf he (by simp), Expr.spelled_sum (by simp) fun x hx => ?_⟩
    obtain ⟨k, -, rfl⟩ := List.mem_map.1 hx
    exact ⟨hcolumn k, ht⟩

theorem spelled_spanOf (hf : f ∈ all) (he : IsWord e.column) (hids : ids ≠ []) :
    (f.spanOf ids e).Spelled N L := by
  have hcolumn : ∀ k, (f.columnOf k e).Spelled N L := fun _ => spelled_columnOf hf he
  match ids, hids with
  | [i], _ => exact ⟨hcolumn i, hcolumn i⟩
  | i :: j :: rest, _ =>
    refine Expr.spelled_spanSum (by simp) fun x hx => ?_
    obtain ⟨k, -, rfl⟩ := List.mem_map.1 hx
    exact hcolumn k

/-! ### Scans -/

theorem spelled_time : Field.time.Spelled N L := by
  have htime : IsWord timeColumn := by decide
  exact ⟨htime, htime⟩

theorem spelled_inWindow (hf : f ∈ all) (h : ∀ x ∈ fields, x.Spelled N L) :
    (f.scan id fields).inWindow.Spelled N L := by
  refine Statement.spelled_iff.2 ⟨by simp [scan, Statement.inWindow, Statement.restrict], h, ?_,
    by simp [scan, Statement.inWindow, Statement.restrict], fun c hc => ?_⟩
  · intro x hx
    obtain rfl : .relation f.table = x := by
      simpa [scan, Statement.inWindow, Statement.restrict] using hx
    exact (isWord_names f hf).2
  · obtain rfl | rfl | rfl : c = .device id ∨ c = .conjunction ∨ c = .inWindow .selected := by
      simpa [scan, Statement.inWindow, Statement.restrict] using hc
    · trivial
    · trivial
    · rfl

theorem spelled_staged (hf : f ∈ all) (hq : ∀ q ∈ qs, f.Declares q) :
    (f.staged qs id).Spelled N L := by
  refine spelled_inWindow hf fun x hx => ?_
  rcases List.mem_cons.1 hx with rfl | hx
  · exact spelled_time
  · obtain ⟨q, hqs, rfl⟩ := List.mem_map.1 hx
    exact spelled_field hf (hq q hqs)

/-- The scans of the devices of a family, named by their relations. -/
theorem spelled_scans (hf : f ∈ all) (hq : ∀ q ∈ qs, f.Declares q) :
    ∀ t ∈ ids.map (f.staged qs), (∃ n, t.name = some n ∧ IsWord n) ∧ t.Spelled N L := by
  intro t ht
  obtain ⟨id, -, rfl⟩ := List.mem_map.1 ht
  exact ⟨⟨_, rfl, isWord_relation hf⟩, spelled_staged hf hq⟩

end Family

/-! ## Joined relations -/

theorem spelled_onTime {a r : String} (ha : IsWord a) (hr : IsWord r) :
    (Join.onTime a r).Spelled N L := by
  have htime : IsWord timeColumn := by decide
  exact ⟨trivial, hr, by simp [Join.onTime], ⟨⟨ha, htime⟩, ⟨hr, htime⟩⟩⟩

theorem spelled_joins {a : String} {rs : List String} (h : ∀ r ∈ a :: rs, IsWord r) :
    ∀ j ∈ rs.map (Join.onTime a), j.Spelled N L := by
  intro j hj
  obtain ⟨r, hr, rfl⟩ := List.mem_map.1 hj
  exact spelled_onTime (h a (by simp)) (h r (List.mem_cons_of_mem _ hr))

/-- Columns over joined relations are spelled if the relations are. -/
theorem spelled_joinedStatement {ctes : List Statement} {fields : List Field} {a : String}
    {rs : List String} (hctes : ∀ t ∈ ctes, (∃ n, t.name = some n ∧ IsWord n) ∧ t.Spelled N L)
    (hfields : ∀ f ∈ fields, f.Spelled N L) (hrs : ∀ r ∈ a :: rs, IsWord r) :
    (joinedStatement ctes fields a rs).Spelled N L := by
  refine Statement.spelled_iff.2 ⟨hctes, hfields, fun x hx => ?_, spelled_joins hrs, ?_⟩
  · obtain rfl : .relation a = x := by simpa [joinedStatement] using hx
    exact hrs a (by simp)
  · simp [joinedStatement]

namespace Alignment

/-- The staged relations are spelled and joined on equal times, and so are the columns. -/
structure Spelled (N L : String → Prop) (x : Alignment) : Prop where
  staged : ∀ t ∈ x.staged, (∃ n, t.name = some n ∧ IsWord n) ∧ t.Spelled N L
  relations : ∀ r ∈ x.relations, IsWord r
  joins : x.joins = x.others.map (Join.onTime x.anchor)
  fields : ∀ f ∈ x.fields, f.Spelled N L

variable {x : Alignment} {fields : List Field}

theorem Spelled.compute (h : x.Spelled N L) (hfields : ∀ f ∈ fields, f.Spelled N L) :
    (x.compute fields).Spelled N L where
  staged := h.staged
  relations := h.relations
  joins := h.joins
  fields f hf := (List.mem_append.1 hf).elim (h.fields f) (hfields f)

theorem spelled_timeOf {a : String} {rs : List String} (h : ∀ r ∈ a :: rs, IsWord r) :
    (timeOf a rs).Spelled N L := by
  have htime : IsWord timeColumn := by decide
  cases rs with
  | nil => exact ⟨⟨h a (by simp), htime⟩, htime⟩
  | cons r rs => exact ⟨⟨h, htime⟩, htime⟩

theorem Spelled.statement (h : x.Spelled N L) : x.statement.Spelled N L := by
  have hanchor : IsWord x.anchor := h.relations x.anchor (by simp [Alignment.relations])
  refine Statement.spelled_iff.2 ⟨h.staged, fun f hf => ?_, fun y hy => ?_, ?_, fun c hc => ?_⟩
  · rcases List.mem_cons.1 hf with rfl | hf
    · exact Family.spelled_time
    · obtain ⟨g, hg, rfl⟩ := List.mem_map.1 hf
      exact ⟨(h.fields g hg).2, (h.fields g hg).2⟩
  · obtain rfl : x.source = y := by
      simpa [Alignment.statement, Statement.timePresent, Statement.ordered,
        Statement.restrict] using hy
    refine ⟨⟨fun f hf => ?_, hanchor, ?_⟩, (by decide : IsWord derivedName)⟩
    · rcases List.mem_cons.1 hf with rfl | hf
      · exact spelled_timeOf h.relations
      · exact h.fields f hf
    · have hjoins := spelled_joins (N := N) (L := L) h.relations
      rwa [← h.joins] at hjoins
  · simp [Alignment.statement, Statement.timePresent, Statement.ordered, Statement.restrict]
  · obtain rfl | rfl : c = .timePresent none ∨ c = .orderedByTime := by
      simpa [Alignment.statement, Statement.timePresent, Statement.ordered,
        Statement.restrict] using hc
    all_goals trivial

end Alignment

/-! ## Statements of a family -/

namespace Family
variable {f : Family} {id : ℕ} {ids rest : List ℕ} {q c : Quantity} {qs : List Quantity}
  {fields : List Field} {channels : List Channel}

theorem spelled_deviceName (hN : Admits N L) (hf : f ∈ all) {label : String} (h : IsWord label) :
    (f.deviceName id label).Spelled N :=
  hN.name (isWord_relation hf) h

theorem spelled_familyName (hN : Admits N L) (hf : f ∈ all) {label : String} (h : IsWord label) :
    (f.familyName label).Spelled N :=
  hN.name (isWord_names f hf).1 h

theorem spelled_aligned (hf : f ∈ all) (hq : ∀ q ∈ qs, f.Declares q) :
    (f.aligned id rest qs).Spelled N L where
  staged := spelled_scans hf hq
  relations r hr := by
    obtain ⟨i, -, rfl⟩ : ∃ i ∈ id :: rest, f.relation i = r := List.mem_map.1 hr
    exact isWord_relation hf
  joins := rfl
  fields := by simp [aligned]

theorem spelled_joinedOver (hf : f ∈ all) (hc : f.Declares c)
    (hfields : ∀ x ∈ fields, x.Spelled N L) : (f.joinedOver id rest c fields).Spelled N L := by
  refine spelled_joinedStatement (spelled_scans hf (by simpa using hc)) hfields fun r hr => ?_
  obtain ⟨i, -, rfl⟩ : ∃ i ∈ id :: rest, f.relation i = r := List.mem_map.1 hr
  exact isWord_relation hf

/-- The columns of the channels, if their names are admitted. -/
theorem spelled_fields {p : PerDevice} (hf : p.family ∈ all)
    (hd : ∀ c ∈ p.channels, p.family.Declares c.quantity)
    (hn : ∀ id ∈ p.ids, ∀ c ∈ p.channels,
      N (p.family.relation id ++ "." ++ p.family.channelLabel c)) :
    ∀ x ∈ p.fields, x.Spelled N L := by
  intro x hx
  obtain ⟨id, hid, hx⟩ := List.mem_flatMap.1 hx
  obtain ⟨c, hc, rfl⟩ := List.mem_map.1 hx
  exact ⟨spelled_columnOf hf (isWord_column hf (hd c hc)), hn id hid c hc⟩

theorem exists_perDevice_alignment {p : PerDevice} (hf : p.family ∈ all) (hids : p.ids ≠ [])
    (hd : ∀ c ∈ p.channels, p.family.Declares c.quantity)
    (hn : ∀ id ∈ p.ids, ∀ c ∈ p.channels,
      N (p.family.relation id ++ "." ++ p.family.channelLabel c)) :
    ∃ x, p.alignment = .ok x ∧ x.Spelled N L := by
  obtain ⟨id, rest, hcons⟩ := List.exists_cons_of_ne_nil hids
  have hq := PerDevice.declares_quantities_iff.2 hd
  exact ⟨_, PerDevice.alignment_eq_ok_iff.2 ⟨id, rest, hcons, hq, rfl⟩,
    (spelled_aligned hf hq).compute (spelled_fields hf hd hn)⟩

/-- Channels of every device, if their quantities are declared and have a value at an instant. -/
theorem composes_labelled (hf : f ∈ all) (hids : ids ≠ [])
    (hc : ∀ c ∈ channels, c.quantity.isWindowTotal = false ∧ f.Declares c.quantity)
    (hn : ∀ id ∈ ids, ∀ c ∈ channels, N (f.relation id ++ "." ++ f.channelLabel c)) :
    Composes N L (f.labelled ids channels) := by
  have hw : ∀ c ∈ channels, c.quantity.isWindowTotal = false := fun c h => (hc c h).1
  have hd : ∀ c ∈ channels, f.Declares c.quantity := fun c h => (hc c h).2
  match ids, hids with
  | [id], _ =>
    refine ⟨_, labelled_singleton_eq_ok_iff.2 ⟨hw, hd, rfl⟩, ?_⟩
    refine (spelled_inWindow hf fun x hx => ?_).ordered
    rcases List.mem_cons.1 hx with rfl | hx
    · exact spelled_time
    · obtain ⟨c, hmem, rfl⟩ := List.mem_map.1 hx
      exact spelled_computed hf (hd c hmem) (hn id (by simp) c hmem)
  | i :: j :: rest, _ =>
    obtain ⟨x, hx, hspelled⟩ := exists_perDevice_alignment
      (p := ⟨f, i :: j :: rest, channels⟩) (L := L) hf (by simp) hd hn
    refine ⟨x.statement, (labelled_eq_ok_iff (by simp)).2 ⟨hw, ?_⟩, hspelled.statement⟩
    exact Fallible.bind_eq_ok.2 ⟨x, hx, rfl⟩

theorem composes_each (hN : Admits N L) (hf : f ∈ all) (hids : ids ≠ [])
    (hq : ∀ q ∈ qs, q.isWindowTotal = false ∧ f.Declares q) : Composes N L (f.each ids qs) := by
  have hc : ∀ c ∈ qs.map ({ quantity := · } : Quantity → Channel),
      c.quantity.isWindowTotal = false ∧ f.Declares c.quantity := by
    simpa using hq
  refine composes_labelled hf hids hc fun id _ c hmem => ?_
  have hlabel : c.label = none := by
    obtain ⟨q, -, rfl⟩ := List.mem_map.1 hmem
    rfl
  rw [channelLabel, hlabel]
  exact hN.name (isWord_relation hf) (isWord_column hf (hc c hmem).2)

theorem composes_total (hN : Admits N L) (hf : f ∈ all) (hids : ids ≠ [])
    (hw : q.isWindowTotal = false) (hd : f.Declares q) : Composes N L (f.total ids q) := by
  have hcolumn := isWord_column hf hd
  match ids, hids with
  | [id], _ =>
    refine ⟨_, total_singleton_eq_ok_iff.2 ⟨hw, hd, rfl⟩, ?_⟩
    refine (spelled_inWindow hf fun x hx => ?_).ordered
    obtain rfl | rfl := by simpa using hx
    · exact spelled_time
    · exact spelled_computed hf hd (spelled_familyName hN hf hcolumn)
  | i :: j :: rest, _ =>
    have hq : ∀ p ∈ (Combined.add ⟨f, i :: j :: rest, []⟩ q
        (f.sumOf (i :: j :: rest) (f.catalogEntry q)) (f.catalogEntry q).column).quantities,
        f.Declares p := by
      intro p hp
      obtain rfl : p = q := by simpa [Combined.add] using List.mem_eraseDups.1 hp
      exact hd
    refine ⟨_, (total_eq_ok_iff (by simp)).2 (Fallible.bind_eq_ok.2 ⟨_, Combined.sum_eq_ok_iff.2
      ⟨hw, by simp, hd, rfl⟩, Combined.statement_eq_ok_iff.2 ⟨i, j :: rest, rfl, hq, rfl⟩⟩), ?_⟩
    refine ((spelled_aligned hf hq).compute fun x hx => ?_).statement
    obtain rfl := by simpa [Combined.add] using hx
    have hsum : (f.sumOf (i :: j :: rest) (f.catalogEntry q)).Spelled N L :=
      spelled_sumOf hf hcolumn (by simp)
    exact ⟨hsum, spelled_familyName hN hf hcolumn⟩

theorem exists_counter (hw : q.isWindowTotal = true) : ∃ c, q.counter = some c :=
  Option.isSome_iff_exists.1 hw

theorem composes_windowEach (hN : Admits N L) (hf : f ∈ all) (hids : ids ≠ [])
    (hw : q.isWindowTotal = true) (hd : f.Declares q) : Composes N L (f.windowEach ids q) := by
  have hcolumn := isWord_column hf hd
  match ids, hids with
  | [id], _ =>
    refine ⟨_, windowEach_singleton_eq_ok_iff.2 ⟨hd, rfl⟩, spelled_inWindow hf fun x hx => ?_⟩
    obtain rfl := List.mem_singleton.1 hx
    exact spelled_computed hf hd (spelled_deviceName hN hf hcolumn)
  | i :: j :: rest, _ =>
    obtain ⟨c, hc⟩ := exists_counter hw
    have hdc := (spanOf_catalogEntry hf hc hd).1
    refine ⟨_, (windowEach_eq_ok_iff (by simp)).2 ⟨hd, c, hc, hdc, i, j :: rest, rfl, rfl⟩, ?_⟩
    refine spelled_joinedOver hf hdc fun x hx => ?_
    obtain ⟨k, -, rfl⟩ := List.mem_map.1 hx
    have hspan : (f.spanOf [k] (f.catalogEntry c)).Spelled N L :=
      spelled_spanOf hf (isWord_column hf hdc) (by simp)
    exact ⟨hspan, spelled_deviceName hN hf hcolumn⟩

theorem composes_windowTotal (hN : Admits N L) (hf : f ∈ all) (hids : ids ≠ [])
    (hw : q.isWindowTotal = true) (hd : f.Declares q) : Composes N L (f.windowTotal ids q) := by
  have hcolumn := isWord_column hf hd
  match ids, hids with
  | [id], _ =>
    refine ⟨_, windowTotal_singleton_eq_ok_iff.2 ⟨hd, rfl⟩, spelled_inWindow hf fun x hx => ?_⟩
    obtain rfl := List.mem_singleton.1 hx
    exact spelled_computed hf hd (spelled_familyName hN hf hcolumn)
  | i :: j :: rest, _ =>
    obtain ⟨c, hc⟩ := exists_counter hw
    have hdc := (spanOf_catalogEntry hf hc hd).1
    refine ⟨_, (windowTotal_eq_ok_iff (by simp)).2 ⟨hd, c, hc, hdc, i, j :: rest, rfl, rfl⟩, ?_⟩
    refine spelled_joinedOver hf hdc fun x hx => ?_
    obtain rfl := List.mem_singleton.1 hx
    have hspan : (f.spanOf (i :: j :: rest) (f.catalogEntry c)).Spelled N L :=
      spelled_spanOf hf (isWord_column hf hdc) (by simp)
    exact ⟨hspan, spelled_familyName hN hf hcolumn⟩

end Family

end

end EnergyQuery
