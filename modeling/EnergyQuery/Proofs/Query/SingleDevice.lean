/-
  One device, read directly and as several are.

  A single device is read from its table; several are staged, joined in a
  derived table, and selected from it by name.  Staged and selected, one device
  gives the same rows: a column of the derived table is the column that is
  staged, and that is the column of the table.

  * `Alignment.run_statement_eq`: an alignment gives the records of its derived
    table that have a time, in its order;
  * `Family.run_throughStage`: of one device these are the rows of its table;
  * `single_device_agrees`: every statement that has a form of its own for one
    device gives what its general form gives.
-/
import EnergyQuery.Proofs.Query.AlignedReadings
import EnergyQuery.Proofs.Sql.Ordering
import EnergyQuery.Proofs.Sql.Scoping

namespace EnergyQuery

open Sql

/-! ## Selecting from a derived table -/

namespace Alignment
variable {x : Alignment} {db : Database}

/-- What is selected are the columns of the derived table, by their names. -/
theorem outer_eq : x.outer = x.inner.fields.map fun f => .ofName f.name := by
  rw [inner, List.map_cons, name_timeOf]
  rfl

/-- **An alignment gives the records of its derived table that have a time**, in the order of it. -/
theorem run_statement_eq (hf : ∀ f ∈ x.fields, f.expr.isAggregate = false)
    (hn : (x.inner.fields.map (·.name.identifier)).Nodup) :
    x.statement.run db = ((x.inner.records (Statement.bindAll db x.staged)).filter
      fun r => (r.get timeColumn).isSome).insertionSort Record.notAfter := by
  rw [run_statement, output_ordered (by simp) (by simp) not_aggregate_outer, keptScopes,
    List.map_map, List.filter_map, List.map_map]
  congr 1
  have hkeeps : ((fun σ => [Clause.timePresent none, .orderedByTime].all
        (·.keeps (Statement.bindAll db x.staged) σ)) ∘
      (Statement.bindAll db x.staged).scope derivedName ∘ JoinedRow.single derivedName) =
        fun r : Record => (r.get timeColumn).isSome := by
    funext r
    simp [Clause.keeps, column_single]
  rw [hkeeps]
  refine (List.map_congr_left fun r hr => ?_).trans (List.map_id _)
  have hmem := (List.mem_filter.1 hr).1
  rw [records_chain (not_aggregate_inner hf)] at hmem
  obtain ⟨row, -, rfl⟩ := List.mem_map.1 hmem
  rw [Function.comp_apply, Function.comp_apply, outer_eq, rowRecord_ofName hn]
  rfl

end Alignment

/-! ## The columns of one device -/

namespace Family
variable {f : Family} {id : ℕ} {qs : List Quantity} {cols : List (Quantity × Name)} {db : Database}
  {q : Quantity} {σ : Scope}

/-- Columns of one device, read from its table in the order of time. -/
def direct (f : Family) (id : ℕ) (cols : List (Quantity × Name)) : Statement :=
  (f.scan id (.time :: cols.map fun c => ⟨(f.catalogEntry c.1).expr, c.2⟩)).inWindow.ordered

/-- The same columns, read from the staged relation of the device. -/
def throughStage (f : Family) (id : ℕ) (qs : List Quantity) (cols : List (Quantity × Name)) :
    Alignment :=
  (f.aligned id [] qs).compute (cols.map fun c => ⟨f.columnOf id (f.catalogEntry c.1), c.2⟩)

/-- No two rows of the device in the window have one time. -/
def OnceAtInstant (f : Family) (db : Database) (id : ℕ) : Prop :=
  ((f.scopes db id).map (·.column timeColumn)).Nodup

/-- Every quantity is one of the catalog, and has a value in each row. -/
def Instant (f : Family) (qs : List Quantity) : Prop :=
  ∀ q ∈ qs, f.Declares q ∧ q.isWindowTotal = false

instance : Decidable (f.Instant qs) :=
  inferInstanceAs (Decidable (∀ q ∈ qs, f.Declares q ∧ q.isWindowTotal = false))

theorem Instant.not_aggregate (hf : f ∈ all) (h : f.Instant qs) :
    ∀ q ∈ qs, (f.catalogEntry q).expr.isAggregate = false := by
  intro q hq
  rw [isAggregate_catalogEntry hf (h q hq).1, (h q hq).2]

/-- The rows in the window have a time. -/
theorem time_isSome_of_mem_scopes (hσ : σ ∈ f.scopes db id) : (σ.column timeColumn).isSome := by
  have hclauses := (List.mem_filter.1 hσ).2
  have hkept : (σ.column timeColumn).any (db.inWindow .selected) = true := by
    simp only [List.all_cons, Bool.and_eq_true] at hclauses
    exact hclauses.2.2.1
  cases hcolumn : σ.column timeColumn with
  | none => simp [hcolumn] at hkept
  | some t => rfl

theorem not_aggregate_direct (h : ∀ c ∈ cols, (f.catalogEntry c.1).expr.isAggregate = false) :
    ∀ x ∈ Field.time :: cols.map fun c => ⟨(f.catalogEntry c.1).expr, c.2⟩,
      x.expr.isAggregate = false := by
  intro x hx
  rcases List.mem_cons.1 hx with rfl | hx
  · rfl
  · obtain ⟨c, hc, rfl⟩ := List.mem_map.1 hx
    exact h c hc

theorem run_direct (h : ∀ c ∈ cols, (f.catalogEntry c.1).expr.isAggregate = false) :
    (f.direct id cols).run db = ((f.scopes db id).map (rowRecord (.time :: cols.map fun c =>
      ⟨(f.catalogEntry c.1).expr, c.2⟩))).insertionSort Record.notAfter := by
  have hrun : (f.direct id cols).run db = output db f.table
      (.time :: cols.map fun c => ⟨(f.catalogEntry c.1).expr, c.2⟩)
      ([.device id, .conjunction, .inWindow .selected] ++ [.orderedByTime])
      ((db.relation f.table).map (JoinedRow.single f.table)) := by
    rw [direct, scan, Statement.inWindow, Statement.ordered, Statement.restrict, Statement.restrict,
      Statement.run]
    rfl
  rw [hrun, output_ordered (by simp) (by simp) (not_aggregate_direct h), keptScopes_ordered, scopes]

/-- A column of the staged relation is the column of the table. -/
theorem get_staged (hf : f ∈ all) (h : f.Instant qs) (hq : q ∈ qs) :
    (rowRecord (.time :: qs.map fun q => (f.catalogEntry q).field) σ).get
      (f.catalogEntry q).column = (f.catalogEntry q).expr.value [σ] σ := by
  refine Record.get_eq_of_mem ?_ fun w hw => ?_
  · exact List.mem_map.2 ⟨(f.catalogEntry q).field,
      List.mem_cons_of_mem _ (List.mem_map_of_mem hq), rfl⟩
  · obtain ⟨x, hx, hxw⟩ := List.mem_map.1 hw
    obtain ⟨hname, rfl⟩ := Prod.mk.inj hxw
    rcases List.mem_cons.1 hx with rfl | hx
    · exact absurd hname.symm (column_catalogEntry_ne_time hf (h q hq).1)
    · obtain ⟨c, hc, rfl⟩ := List.mem_map.1 hx
      obtain rfl := column_catalogEntry_inj hf (h c hc).1 (h q hq).1 hname
      rfl

/-- Columns over a staged record are those of the row that it is staged from. -/
theorem rowRecord_relation {r : Record} (htime : r.get timeColumn = σ.column timeColumn)
    (hcols : ∀ c ∈ cols, r.get (f.catalogEntry c.1).column =
      (f.catalogEntry c.1).expr.value [σ] σ) :
    rowRecord (timeOf (f.relation id) [] :: cols.map fun c =>
        ⟨f.columnOf id (f.catalogEntry c.1), c.2⟩)
        (db.scope (f.relation id) (JoinedRow.single (f.relation id) r)) =
      rowRecord (.time :: cols.map fun c => ⟨(f.catalogEntry c.1).expr, c.2⟩) σ := by
  have hcolumn (n : String) : (Expr.ref (f.relation id) n).value
      [db.scope (f.relation id) (JoinedRow.single (f.relation id) r)]
      (db.scope (f.relation id) (JoinedRow.single (f.relation id) r)) = r.get n :=
    congrFun ref_single n
  rw [rowRecord, rowRecord, Group.record, Group.record, List.map_cons, List.map_cons, List.map_map,
    List.map_map]
  congr 1
  · exact Prod.ext rfl ((hcolumn timeColumn).trans htime)
  · exact List.map_congr_left fun c hmem => Prod.ext rfl ((hcolumn _).trans (hcols c hmem))

/-- **The derived table of one device holds the rows of its table.** -/
theorem records_throughStage (hf : f ∈ all) (h : f.Instant qs) (hc : ∀ c ∈ cols, c.1 ∈ qs) :
    (f.throughStage id qs cols).inner.records
        (Statement.bindAll db (f.throughStage id qs cols).staged) =
      (f.scopes db id).map (rowRecord (.time :: cols.map fun c =>
        ⟨(f.catalogEntry c.1).expr, c.2⟩)) := by
  have hstaged : (Statement.bindAll db (f.throughStage id qs cols).staged).relation
      (f.relation id) = (f.staged qs id).run db :=
    DeviceScan.relation_bindAll (l := [⟨f, qs, id⟩]) (m := ⟨f, qs, id⟩)
      (List.forall_mem_singleton.2 ⟨hf, h⟩) (List.nodup_singleton _) (List.mem_singleton_self _)
  have hfields : ∀ x ∈ (f.throughStage id qs cols).fields, x.expr.isAggregate = false := by
    intro x hx
    obtain ⟨c, -, rfl⟩ := List.mem_map.1 hx
    rfl
  have hrows : (f.throughStage id qs cols).inner.rows
      (Statement.bindAll db (f.throughStage id qs cols).staged) =
        ((f.staged qs id).run db).map (JoinedRow.single (f.relation id)) := by
    rw [← hstaged]
    rfl
  rw [records_chain (Alignment.not_aggregate_inner hfields), hrows,
    run_staged (Instant.not_aggregate hf h), List.map_map, List.map_map]
  exact List.map_congr_left fun σ _ => rowRecord_relation
    (get_record_cons_self (f := Field.time)) fun c hmem => get_staged hf h (hc c hmem)

/-- **One device, staged and selected, gives the rows of its table.** -/
theorem run_throughStage (hf : f ∈ all) (h : f.Instant qs) (hc : ∀ c ∈ cols, c.1 ∈ qs)
    (hn : (timeColumn :: cols.map (·.2.identifier)).Nodup) :
    (f.throughStage id qs cols).statement.run db = (f.direct id cols).run db := by
  have hnames : ((f.throughStage id qs cols).inner.fields.map (·.name.identifier)).Nodup := by
    show (timeColumn :: (cols.map fun c =>
      (⟨f.columnOf id (f.catalogEntry c.1), c.2⟩ : Field)).map (·.name.identifier)).Nodup
    rw [List.map_map]
    exact hn
  have hfields : ∀ x ∈ (f.throughStage id qs cols).fields, x.expr.isAggregate = false := by
    intro x hx
    obtain ⟨c, -, rfl⟩ := List.mem_map.1 hx
    rfl
  rw [Alignment.run_statement_eq hfields hnames, records_throughStage hf h hc,
    run_direct fun c hmem => Instant.not_aggregate hf h c.1 (hc c hmem)]
  congr 1
  -- The window keeps only rows with a time, so that the outer filter drops none of them.
  refine List.filter_eq_self.2 fun r hr => ?_
  obtain ⟨σ, hσ, rfl⟩ := List.mem_map.1 hr
  have htime : Record.get (rowRecord (Field.time :: cols.map fun c =>
      ⟨(f.catalogEntry c.1).expr, c.2⟩) σ) timeColumn = σ.column timeColumn :=
    get_record_cons_self (f := Field.time)
  rw [htime]
  exact time_isSome_of_mem_scopes hσ

/-- **The rows of one device have one order** if no two of them have one time. -/
theorem pairwise_isBefore_direct (h : ∀ c ∈ cols, (f.catalogEntry c.1).expr.isAggregate = false)
    (honce : f.OnceAtInstant db id) : ((f.direct id cols).run db).Pairwise Record.isBefore := by
  have htime (σ : Scope) : Record.get (rowRecord (Field.time :: cols.map fun c =>
      ⟨(f.catalogEntry c.1).expr, c.2⟩) σ) timeColumn = σ.column timeColumn :=
    get_record_cons_self (f := Field.time)
  rw [run_direct h]
  refine pairwise_isBefore_insertionSort (fun r hr => ?_) ?_
  · obtain ⟨σ, hσ, rfl⟩ := List.mem_map.1 hr
    rw [htime]
    exact time_isSome_of_mem_scopes hσ
  · rw [List.map_map]
    exact (List.map_congr_left fun σ _ => htime σ) ▸ honce

end Family

/-! ## Statements with a form for one device -/

/-- Both statements can be composed, and give the same columns and the same rows, each of which has
    a time after that of the row before. -/
def Agree (db : Database) (x y : Composed Statement) : Prop :=
  ∃ s t, x = .ok s ∧ y = .ok t ∧ s.columns = t.columns ∧ s.run db = t.run db ∧
    (s.run db).Pairwise Record.isBefore

/-- Columns of one device agree, read directly and through its staged relation. -/
theorem Family.agree_throughStage {f : Family} {id : ℕ} {qs : List Quantity}
    {cols : List (Quantity × Name)} {db : Database} (hf : f ∈ all) (h : f.Instant qs)
    (hc : ∀ c ∈ cols, c.1 ∈ qs) (hn : (timeColumn :: cols.map (·.2.identifier)).Nodup)
    (honce : f.OnceAtInstant db id) :
    Agree db (.ok (f.direct id cols)) (.ok (f.throughStage id qs cols).statement) := by
  refine ⟨_, _, rfl, rfl, ?_, (run_throughStage hf h hc hn).symm,
    pairwise_isBefore_direct (fun c hmem => h.not_aggregate hf c.1 (hc c hmem)) honce⟩
  show timeColumn :: (cols.map fun c => (⟨(f.catalogEntry c.1).expr, c.2⟩ : Field)).map _ =
    timeColumn :: ((cols.map fun c => (⟨f.columnOf id (f.catalogEntry c.1), c.2⟩ : Field)).map
      fun x => Field.ofName x.name).map _
  rw [List.map_map, List.map_map, List.map_map]
  rfl

namespace PerDevice
variable {p p' : PerDevice} {c : Channel} {channels : List Channel}

theorem choose_eq_ok_iff :
    p.choose c = .ok p' ↔
      c.quantity.isWindowTotal = false ∧ p' = { p with channels := p.channels ++ [c] } := by
  rw [choose, Fallible.bind_unit_eq_ok Quantity.requireInstant_eq_ok_iff, Fallible.pure_eq_ok,
    eq_comm (a := p')]

/-- Channels of instantaneous quantities can be chosen one after the other. -/
theorem foldlM_choose_eq_ok_iff :
    channels.foldlM choose p = .ok p' ↔
      (∀ c ∈ channels, c.quantity.isWindowTotal = false) ∧
        p' = { p with channels := p.channels ++ channels } := by
  induction channels generalizing p with
  | nil => simp [pure, Except.pure, eq_comm (a := p')]
  | cons c channels ih =>
    rw [List.foldlM_cons, Fallible.bind_eq_ok, List.forall_mem_cons]
    constructor
    · rintro ⟨q, hq, h⟩
      obtain ⟨hc, rfl⟩ := choose_eq_ok_iff.1 hq
      obtain ⟨hmore, rfl⟩ := ih.1 h
      exact ⟨⟨hc, hmore⟩, by rw [List.append_assoc, List.singleton_append]⟩
    · rintro ⟨⟨hc, hmore⟩, rfl⟩
      refine ⟨_, choose_eq_ok_iff.2 ⟨hc, rfl⟩, ih.2 ⟨hmore, ?_⟩⟩
      rw [List.append_assoc, List.singleton_append]

/-- The statement of chosen channels, whatever the number of devices. -/
def ofChannels (f : Family) (ids : List ℕ) (channels : List Channel) : Composed Statement := do
  (← channels.foldlM choose { family := f, ids := ids }).statement

theorem ofChannels_eq_ok_iff {f : Family} {ids : List ℕ} {x : Statement} :
    ofChannels f ids channels = .ok x ↔
      (∀ c ∈ channels, c.quantity.isWindowTotal = false) ∧
        (PerDevice.mk f ids channels).statement = .ok x := by
  rw [ofChannels, Fallible.bind_eq_ok]
  constructor
  · rintro ⟨p, hp, h⟩
    obtain ⟨hq, rfl⟩ := foldlM_choose_eq_ok_iff.1 hp
    exact ⟨hq, h⟩
  · rintro ⟨hq, h⟩
    exact ⟨_, foldlM_choose_eq_ok_iff.2 ⟨hq, rfl⟩, h⟩

/-- Of one device, the channels are read through its staged relation. -/
theorem ofChannels_singleton {f : Family} {id : ℕ} (h : f.Instant (channels.map (·.quantity))) :
    ofChannels f [id] channels = .ok (f.throughStage id (channels.map (·.quantity)).eraseDups
      (channels.map fun c => (c.quantity, f.deviceName id (f.channelLabel c)))).statement := by
  have hinstant : ∀ c ∈ channels, c.quantity.isWindowTotal = false :=
    fun c hc => (h c.quantity (List.mem_map_of_mem hc)).2
  have hdeclares : ∀ q ∈ (PerDevice.mk f [id] channels).quantities, f.Declares q :=
    fun q hq => (h q (List.mem_eraseDups.1 hq)).1
  have hfields : (PerDevice.mk f [id] channels).fields =
      (channels.map fun c => (c.quantity, f.deviceName id (f.channelLabel c))).map fun c =>
        ⟨f.columnOf id (f.catalogEntry c.1), c.2⟩ := by
    rw [fields, List.flatMap_singleton, List.map_map]
    rfl
  have halignment : (PerDevice.mk f [id] channels).alignment =
      .ok (f.throughStage id (channels.map (·.quantity)).eraseDups
        (channels.map fun c => (c.quantity, f.deviceName id (f.channelLabel c)))) :=
    alignment_eq_ok_iff.2 ⟨id, [], rfl, hdeclares, by rw [hfields]; rfl⟩
  exact ofChannels_eq_ok_iff.2 ⟨hinstant, Fallible.bind_eq_ok.2 ⟨_, halignment, rfl⟩⟩

/-- Several devices are read so. -/
theorem labelled_eq_ok_iff_ofChannels {f : Family} {ids : List ℕ} {x : Statement}
    (hlen : 2 ≤ ids.length) :
    f.labelled ids channels = .ok x ↔ ofChannels f ids channels = .ok x := by
  rw [Family.labelled_eq_ok_iff hlen, ofChannels_eq_ok_iff]

end PerDevice

/-- The statement of a sum, whatever the number of devices. -/
def Combined.ofSum (f : Family) (ids : List ℕ) (q : Quantity) : Composed Statement := do
  (← sum { family := f, ids := ids } q).statement

/-- Several devices are read so. -/
theorem Combined.total_eq_ok_iff_ofSum {f : Family} {ids : List ℕ} {q : Quantity} {x : Statement}
    (hlen : 2 ≤ ids.length) : f.total ids q = .ok x ↔ ofSum f ids q = .ok x :=
  Family.total_eq_ok_iff hlen

theorem Combined.ofSum_singleton {f : Family} {id : ℕ} {q : Quantity} (h : f.Instant [q]) :
    ofSum f [id] q = .ok (f.throughStage id [q]
      [(q, f.familyName (f.catalogEntry q).column)]).statement := by
  obtain ⟨hd, hq⟩ := h q (List.mem_singleton_self q)
  refine Fallible.bind_eq_ok.2 ⟨_, sum_eq_ok_iff.2 ⟨hq, List.cons_ne_nil _ _, hd, rfl⟩,
    statement_eq_ok_iff.2 ⟨id, [], rfl, fun p hp => ?_, rfl⟩⟩
  obtain rfl : p = q := by simpa [add, quantities, List.eraseDups_cons] using hp
  exact hd

namespace Combination
variable {c : Combination} {s : Contribution} {id : ℕ} {label : String}

/-- The combination has one device, which is added. -/
def IsSingle (c : Combination) (s : Contribution) (id : ℕ) : Prop :=
  c.active = [s] ∧ s.ids = [id] ∧ s.sign = .plus

theorem single?_eq_some_iff : c.single? = some (s, id) ↔ c.IsSingle s id := by
  refine ⟨single?_eq_some, ?_⟩
  rintro ⟨hactive, hids, hsign⟩
  simp [single?, hactive, hids, hsign]

/-- The signed sum over the joined relations, whatever the number of devices. -/
def totalAligned (c : Combination) (label : String) : Composed Statement := do
  let a ← c.alignment
  return (a.compute [← c.sumField label]).statement

/-- Several devices are read so. -/
theorem total_eq_totalAligned (h : c.single? = none) :
    c.total label = (do
      c.active.forM (·.quantity.requireInstant c.name)
      c.totalAligned label) := by
  rw [total, h]
  rfl

/-- The relations of a single device are its staged relation. -/
theorem alignment_of_single (h : c.IsSingle s id) (hd : s.Declares) :
    c.alignment = .ok (s.family.aligned id [] s.staged) := by
  obtain ⟨hactive, hids, -⟩ := h
  refine alignment_eq_ok_iff.2 ⟨?_, s.family.relation id, [], ?_, ?_⟩
  · rw [hactive]
    exact List.forall_mem_singleton.2 hd
  · rw [relations, hactive, List.flatMap_singleton, Contribution.relations, hids]
    rfl
  · rw [aligned, hactive, List.flatMap_singleton, stagedOf, hids]
    rfl

theorem sumField_of_single (h : c.IsSingle s id) (hd : s.family.Declares s.quantity) :
    c.sumField label =
      .ok ⟨s.family.columnOf id (s.family.catalogEntry s.quantity), c.columnName label⟩ := by
  rw [sumField, single?_eq_some_iff.2 h]
  exact Fallible.bind_eq_ok.2 ⟨_, Fallible.bind_eq_ok.2
    ⟨_, Family.entry_eq_ok_iff.2 ⟨hd, rfl⟩, rfl⟩, rfl⟩

theorem totalAligned_of_single (h : c.IsSingle s id) (hd : s.Declares)
    (hq : s.quantity.isWindowTotal = false) :
    c.totalAligned label = .ok (s.family.throughStage id s.staged
      [(s.quantity, c.columnName label)]).statement :=
  Fallible.bind_eq_ok.2 ⟨_, alignment_of_single h hd, Fallible.bind_eq_ok.2
    ⟨_, sumField_of_single h (hd _ (Contribution.quantity_mem_staged hq)), rfl⟩⟩

end Combination

namespace Heating

/-- Heat and coefficient of performance over the joined relations, whatever the number of
    devices. -/
def heatAligned (heatpumps generators : List ℕ) : Composed Statement := do
  let c := combination heatpumps generators .heat [.cop]
  let a ← c.alignment
  return (a.compute [← c.sumField "heat_w", ← Heatpump.copField heatpumps]).statement

/-- Several devices with a heat pump among them are read so. -/
theorem heat_eq_heatAligned {heatpumps generators : List ℕ} (hne : heatpumps ≠ [])
    (hlen : 2 ≤ heatpumps.length + generators.length) :
    heat heatpumps generators = heatAligned heatpumps generators := by
  match heatpumps, generators with
  | [], _ => exact absurd rfl hne
  | [_], [] => simp at hlen
  | [_], _ :: _ => rfl
  | _ :: _ :: _, _ => rfl

/-- The columns of a single heat pump. -/
def columns : List (Quantity × Name) :=
  [(.heat, .quoted "heating.heat_w"), (.cop, .quoted "heatpump.cop")]

theorem heat_singleton {id : ℕ} : heat [id] [] = .ok (Family.heatpump.direct id columns) :=
  rfl

theorem heatAligned_singleton {id : ℕ} :
    heatAligned [id] [] =
      .ok (Family.heatpump.throughStage id [.heat, .cop] columns).statement :=
  rfl

end Heating

section
variable {f : Family} {id : ℕ} {db : Database} {q : Quantity} {channels : List Channel}
  {s : Contribution} {c : Combination} {label : String}

theorem Family.agree_labelled (hf : f ∈ all) (h : f.Instant (channels.map (·.quantity)))
    (hl : (channels.map f.channelLabel).Nodup) (honce : f.OnceAtInstant db id) :
    Agree db (f.labelled [id] channels) (PerDevice.ofChannels f [id] channels) := by
  have hdirect : f.labelled [id] channels = .ok (f.direct id
      (channels.map fun c => (c.quantity, f.deviceName id (f.channelLabel c)))) := by
    refine labelled_singleton_eq_ok_iff.2 ⟨fun c hc => ?_, fun c hc => ?_, ?_⟩
    · exact (h c.quantity (List.mem_map_of_mem hc)).2
    · exact (h c.quantity (List.mem_map_of_mem hc)).1
    · rw [direct, List.map_map]
      rfl
  rw [hdirect, PerDevice.ofChannels_singleton h]
  refine agree_throughStage hf (fun q hq => h q (List.mem_eraseDups.1 hq)) (fun x hx => ?_) ?_ honce
  · obtain ⟨c, hc, rfl⟩ := List.mem_map.1 hx
    exact List.mem_eraseDups.2 (List.mem_map_of_mem hc)
  · rw [List.map_map, List.nodup_cons]
    constructor
    · intro hmem
      obtain ⟨c, -, htime⟩ := List.mem_map.1 hmem
      exact time_ne_label htime.symm
    · have hinj : Function.Injective fun l => f.relation id ++ "." ++ l :=
        fun l k hlk => (deviceLabel_inj.1 hlk).2
      have hnames := hl.map hinj
      rwa [List.map_map] at hnames

theorem Family.agree_total (hf : f ∈ all) (h : f.Instant [q]) (honce : f.OnceAtInstant db id) :
    Agree db (f.total [id] q) (Combined.ofSum f [id] q) := by
  obtain ⟨hd, hq⟩ := h q (List.mem_singleton_self q)
  have hdirect : f.total [id] q = .ok (f.direct id
      [(q, f.familyName (f.catalogEntry q).column)]) :=
    total_singleton_eq_ok_iff.2 ⟨hq, hd, rfl⟩
  rw [hdirect, Combined.ofSum_singleton h]
  refine agree_throughStage hf h (fun x hx => ?_) nodup_time_label honce
  obtain rfl := List.mem_singleton.1 hx
  exact List.mem_singleton_self q

/-- A contribution of instantaneous quantities stages these. -/
theorem Contribution.instant_staged (h : s.family.Instant (s.quantity :: s.also)) :
    s.family.Instant s.staged := by
  obtain ⟨hd, hq⟩ := h s.quantity List.mem_cons_self
  have hstaged : s.quantity.staged = s.quantity := by
    have hnone : s.quantity.counter = none := by simpa [Quantity.isWindowTotal] using hq
    rw [Quantity.staged, hnone, Option.getD_none]
  intro p hp
  rw [staged, hstaged, List.mem_cons] at hp
  rcases hp with rfl | hp
  · exact ⟨hd, hq⟩
  · exact h p (List.mem_cons_of_mem _ (List.mem_filter.1 hp).1)

theorem Combination.agree_total (hf : s.family ∈ Family.all) (hs : c.IsSingle s id)
    (h : s.family.Instant (s.quantity :: s.also)) (honce : s.family.OnceAtInstant db id) :
    Agree db (c.total label) (c.totalAligned label) := by
  obtain ⟨hd, hq⟩ := h s.quantity List.mem_cons_self
  have hstaged := Contribution.instant_staged h
  have hdirect : c.total label = .ok (s.family.direct id [(s.quantity, c.columnName label)]) :=
    (total_eq_ok_iff_of_single (single?_eq_some_iff.2 hs)).2 ⟨hq, hd, rfl⟩
  rw [hdirect, totalAligned_of_single hs (fun p hp => (hstaged p hp).1) hq]
  refine Family.agree_throughStage hf hstaged (fun x hx => ?_) nodup_time_label honce
  obtain rfl := List.mem_singleton.1 hx
  exact Contribution.quantity_mem_staged hq

theorem Heating.agree_heat (honce : Family.heatpump.OnceAtInstant db id) :
    Agree db (heat [id] []) (heatAligned [id] []) := by
  have hf : Family.heatpump ∈ Family.all := by decide
  have hinstant : Family.heatpump.Instant [.heat, .cop] := by decide
  have hnames : (timeColumn :: columns.map (·.2.identifier)).Nodup := by decide
  rw [heat_singleton, heatAligned_singleton]
  refine Family.agree_throughStage hf hinstant (fun x hx => ?_) hnames honce
  obtain rfl | rfl := by simpa [columns] using hx
  · exact List.mem_cons_self
  · exact List.mem_cons_of_mem _ List.mem_cons_self

end

/-- **A device alone is read as it is among several.**  Each statement that reads a single device
    from its table gives the columns and the rows that its general form gives, in the same order,
    which is the only one if no two rows of the device in the window have one time. -/
theorem single_device_agrees {f : Family} (hf : f ∈ Family.all) (id : ℕ) (db : Database)
    (honce : f.OnceAtInstant db id) :
    (∀ channels : List Channel, f.Instant (channels.map (·.quantity)) →
      (channels.map f.channelLabel).Nodup →
        Agree db (f.labelled [id] channels) (PerDevice.ofChannels f [id] channels)) ∧
    (∀ q, f.Instant [q] → Agree db (f.total [id] q) (Combined.ofSum f [id] q)) ∧
    (∀ (c : Combination) (s : Contribution) (label : String), c.IsSingle s id → s.family = f →
      f.Instant (s.quantity :: s.also) → Agree db (c.total label) (c.totalAligned label)) ∧
    (f = .heatpump → Agree db (Heating.heat [id] []) (Heating.heatAligned [id] [])) := by
  refine ⟨fun channels h hl => Family.agree_labelled hf h hl honce,
    fun q h => Family.agree_total hf h honce, ?_, ?_⟩
  · rintro c s label hs rfl h
    exact Combination.agree_total hf hs h honce
  · rintro rfl
    exact Heating.agree_heat honce

/-- Readings of a heat pump, one without a coefficient, one after the window, and one of another
    device. -/
def heatpumpReadings : Database where
  relation r :=
    if r = Family.heatpump.table then
      [[(deviceColumn, some 4), (timeColumn, some 60), ("power_w", some 500),
          ("cop_pct", some 3000)],
        [(deviceColumn, some 5), (timeColumn, some 60), ("power_w", some 700),
          ("cop_pct", some 2000)],
        [(deviceColumn, some 4), (timeColumn, some 0), ("power_w", some 400), ("cop_pct", none)],
        [(deviceColumn, some 4), (timeColumn, some 900), ("power_w", some 100),
          ("cop_pct", some 1000)]]
    else []
  inWindow _ t := t < 100
  series _ _ _ := []
  boundary _ t := t
  text _ := none

theorem single_device_agrees_heatpump :
    Family.heatpump ∈ Family.all ∧ Family.heatpump.OnceAtInstant heatpumpReadings 4 ∧
      Agree heatpumpReadings (Heating.heat [4] []) (Heating.heatAligned [4] []) ∧
      ∃ s, Heating.heatAligned [4] [] = .ok s ∧ s.run heatpumpReadings =
        [[("time", some 0), ("heating.heat_w", none), ("heatpump.cop", none)],
          [("time", some 60), ("heating.heat_w", some 15000), ("heatpump.cop", some 30)]] := by
  have hf : Family.heatpump ∈ Family.all := by decide
  have honce : Family.heatpump.OnceAtInstant heatpumpReadings 4 := by
    unfold Family.OnceAtInstant
    decide +kernel
  have hagree := (single_device_agrees hf 4 heatpumpReadings honce).2.2.2 rfl
  refine ⟨hf, honce, hagree, ?_⟩
  obtain ⟨s, t, hs, ht, -, hrun, -⟩ := hagree
  refine ⟨t, ht, ?_⟩
  obtain rfl := Except.ok.inj hs
  rw [← hrun]
  decide +kernel

end EnergyQuery
