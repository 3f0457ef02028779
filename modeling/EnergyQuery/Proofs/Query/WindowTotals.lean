/-
  Totals over the window.

  A total over the window is the span of a cumulative counter.  For one device
  it is computed over the rows of the table; for several, over their staged
  relations, joined on equal times.  The join repeats rows and pads them with
  NULLs, but it neither loses a reading nor makes one up, and a largest and a
  smallest value do not depend on more than that.

  * `spanValue_joinAll`: the span of a column over joined relations is its span
    in its own relation;
  * `Family.deviceTotal` is the total of a single device, `deviceTotal_eq` the
    span that it is;
  * `windowTotals_eq_deviceTotals`: every statement with totals over the window
    gives the totals of single devices, each in a column of its own or added up.
-/
import EnergyQuery.Proofs.Query.Combining
import EnergyQuery.Proofs.Sql.Output
import EnergyQuery.Proofs.Sql.TimeChain

namespace EnergyQuery

open Sql

/-! ## Spans over joined relations -/

/-- The largest value of a column less the smallest one. -/
def columnSpan (rs : List Record) (column : String) : Value :=
  Option.map₂ (· - ·) (largest (rs.map (·.get column))) (smallest (rs.map (·.get column)))

section
variable {db : Database} {a r : String} {rs : List String} {source column : String}

/-- The joined rows hold the numbers that the relation holds, and no others. -/
theorem some_mem_map_ref_iff (hn : (a :: rs).Nodup) (hr : r ∈ a :: rs) {x : ℚ} :
    some x ∈ ((joinAll db source (rs.map (Join.onTime a))
        ((db.relation a).map (JoinedRow.single a))).map (db.scope source)).map (·.ref r column) ↔
      some x ∈ (db.relation r).map (·.get column) := by
  rw [List.map_map, List.mem_map, List.mem_map]
  constructor
  · rintro ⟨row, hrow, hx⟩
    obtain ⟨y, hy, hyx⟩ := Option.bind_eq_some_iff.1 hx
    exact ⟨y, (exists_joinAll_iff source hn hr).1 ⟨row, hrow, hy⟩, hyx⟩
  · rintro ⟨y, hy, hyx⟩
    obtain ⟨row, hrow, hry⟩ := (exists_joinAll_iff source hn hr).2 hy
    exact ⟨row, hrow, Option.bind_eq_some_iff.2 ⟨y, hry, hyx⟩⟩

/-- **The span of a column over joined relations is its span in its own relation.** -/
theorem spanValue_joinAll (hn : (a :: rs).Nodup) (hr : r ∈ a :: rs) :
    Expr.spanValue ((joinAll db source (rs.map (Join.onTime a))
        ((db.relation a).map (JoinedRow.single a))).map (db.scope source)) (.ref r column) =
      columnSpan (db.relation r) column := by
  unfold Expr.spanValue columnSpan
  congr 1
  · exact largest_congr fun x => some_mem_map_ref_iff hn hr
  · exact smallest_congr fun x => some_mem_map_ref_iff hn hr

end

/-- Columns over joined common table expressions give one record, in which the span of a column is
    that of the expression behind it. -/
theorem run_joinedStatement {α : Type} (db : Database) (l : List α) (st : α → Statement)
    (nm : α → String) {a : String} {rs : List String} {fields : List Field}
    (hname : ∀ x ∈ l, (st x).name = some (nm x)) (hl : l.map nm = a :: rs)
    (hn : (a :: rs).Nodup)
    (hreads : ∀ x ∈ l, ∀ y ∈ l, ∀ db rs, (st x).run (db.bind (nm y) rs) = (st x).run db)
    (hf : ∃ f ∈ fields, f.expr.isAggregate = true) :
    ∃ g : Group, (joinedStatement (l.map st) fields a rs).run db = [g.record fields] ∧
      ∀ x ∈ l, ∀ column, Expr.spanValue g.members (.ref (nm x) column) =
        columnSpan ((st x).run db) column := by
  have hrun : (joinedStatement (l.map st) fields a rs).run db =
      output (Statement.bindAll db (l.map st)) a fields []
        (joinAll (Statement.bindAll db (l.map st)) a (rs.map (Join.onTime a))
          (((Statement.bindAll db (l.map st)).relation a).map (JoinedRow.single a))) := by
    rw [joinedStatement, Statement.run]
    rfl
  rw [hrun, output_aggregate (by decide) hf, keptScopes_nil]
  refine ⟨_, rfl, fun x hx column => ?_⟩
  have hmem : nm x ∈ a :: rs := hl ▸ List.mem_map_of_mem hx
  rw [spanValue_joinAll hn hmem, Statement.relation_bindAll hname (hl ▸ hn) hreads hx]

/-! ## Scans -/

namespace Family
variable {f : Family} {id : ℕ} {fields : List Field} {q c : Quantity} {db : Database}

/-- The rows of one device in the selected window. -/
def scopes (f : Family) (db : Database) (id : ℕ) : List Scope :=
  keptScopes db f.table [.device id, .conjunction, .inWindow .selected]
    ((db.relation f.table).map (JoinedRow.single f.table))

theorem plain_scan : Plain [.device id, .conjunction, .inWindow .selected] := by
  simp [Plain]

theorem run_scan :
    Statement.run db (f.scan id fields).inWindow =
      output db f.table fields [.device id, .conjunction, .inWindow .selected]
        ((db.relation f.table).map (JoinedRow.single f.table)) := by
  rw [scan, Statement.inWindow, Statement.restrict, Statement.run]
  rfl

theorem run_scan_rowwise (hf : ∀ x ∈ fields, x.expr.isAggregate = false) :
    Statement.run db (f.scan id fields).inWindow = (f.scopes db id).map (rowRecord fields) := by
  rw [run_scan, output_rowwise plain_scan hf, scopes]

theorem run_scan_aggregate (f : Family) (db : Database) (id : ℕ)
    (hf : ∃ x ∈ fields, x.expr.isAggregate = true) :
    ∃ σ, Statement.run db (f.scan id fields).inWindow =
      [Group.record fields ⟨f.scopes db id, σ⟩] := by
  rw [run_scan, output_aggregate plain_scan hf]
  exact ⟨_, rfl⟩

/-- What is bound beside the table does not change the rows of a device. -/
theorem scopes_bind {n : String} {rs : List Record} (h : n ≠ f.table) :
    f.scopes (db.bind n rs) id = f.scopes db id := by
  have htable : (db.bind n rs).relation f.table = db.relation f.table :=
    Function.update_of_ne h.symm _ _
  rw [scopes, scopes, keptScopes, keptScopes, htable]
  rfl

theorem isAggregate_stagedFields {qs : List Quantity}
    (h : ∀ q ∈ qs, (f.catalogEntry q).expr.isAggregate = false) :
    ∀ x ∈ Field.time :: qs.map fun q => (f.catalogEntry q).field, x.expr.isAggregate = false := by
  intro x hx
  rcases List.mem_cons.1 hx with rfl | hx
  · rfl
  · obtain ⟨q, hq, rfl⟩ := List.mem_map.1 hx
    exact h q hq

theorem run_staged {qs : List Quantity}
    (h : ∀ q ∈ qs, (f.catalogEntry q).expr.isAggregate = false) :
    (f.staged qs id).run db =
      (f.scopes db id).map (rowRecord (.time :: qs.map fun q => (f.catalogEntry q).field)) :=
  run_scan_rowwise (isAggregate_stagedFields h)

/-- A staged relation reads the table of its family only. -/
theorem run_staged_bind {qs : List Quantity} {n : String} {rs : List Record}
    (h : ∀ q ∈ qs, (f.catalogEntry q).expr.isAggregate = false) (hn : n ≠ f.table) :
    (f.staged qs id).run (db.bind n rs) = (f.staged qs id).run db := by
  rw [run_staged h, run_staged h, scopes_bind hn]

/-- The span of the first staged column is that of its expression over the rows of the table. -/
theorem columnSpan_staged {qs : List Quantity}
    (h : ∀ p ∈ q :: qs, (f.catalogEntry p).expr.isAggregate = false)
    (htime : (f.catalogEntry q).column ≠ timeColumn) :
    columnSpan ((f.staged (q :: qs) id).run db) (f.catalogEntry q).column =
      Expr.spanValue (f.scopes db id) (f.catalogEntry q).expr := by
  have hcolumn : ((f.staged (q :: qs) id).run db).map (·.get (f.catalogEntry q).column) =
      (f.scopes db id).map fun τ => (f.catalogEntry q).expr.value (f.scopes db id) τ := by
    rw [run_staged h, List.map_map]
    refine List.map_congr_left fun τ _ => ?_
    rw [Function.comp_apply, rowRecord, get_record_cons_of_ne (by exact htime), List.map_cons]
    refine (get_record_cons_self (f := (f.catalogEntry q).field)).trans ?_
    exact Expr.value_eq_of_not_aggregate (h q (by simp))
  rw [columnSpan, hcolumn]
  rfl

/-! ## Totals of single devices -/

/-- The value in the only column of the only record. -/
def onlyValue : List Record → Value
  | [[(_, v)]] => v
  | _ => none

/-- The total of a single device, as its own statement gives it. -/
def deviceTotal (f : Family) (db : Database) (q : Quantity) (id : ℕ) : Value :=
  match f.windowEach [id] q with
  | .ok s => onlyValue (s.run db)
  | .error _ => none

/-- The output name of the total of a single device. -/
def totalName (f : Family) (q : Quantity) (id : ℕ) : String :=
  (f.deviceName id (f.catalogEntry q).column).identifier

theorem run_windowEach_singleton (db : Database) (id : ℕ) (hf : f ∈ all)
    (hq : q.counter = some c) (hd : f.Declares q) :
    ∃ s, f.windowEach [id] q = .ok s ∧
      s.run db = [[(f.totalName q id, Expr.spanValue (f.scopes db id) (f.catalogEntry c).expr)]] := by
  refine ⟨_, windowEach_singleton_eq_ok_iff.2 ⟨hd, rfl⟩, ?_⟩
  have haggregate : (f.catalogEntry q).expr.isAggregate = true := by
    rw [isAggregate_catalogEntry hf hd, Quantity.isWindowTotal, hq, Option.isSome_some]
  have hfield : ∃ x ∈ [(⟨(f.catalogEntry q).expr,
      f.deviceName id (f.catalogEntry q).column⟩ : Field)], x.expr.isAggregate = true :=
    ⟨_, List.mem_singleton_self _, haggregate⟩
  obtain ⟨σ, hσ⟩ := run_scan_aggregate f db id hfield
  rw [hσ, ← value_catalogEntry_of_counter hf hq hd]
  rfl

/-- The total of a single device is the span of the counter over its rows. -/
theorem deviceTotal_eq (hf : f ∈ all) (hq : q.counter = some c) (hd : f.Declares q) :
    f.deviceTotal db q id = Expr.spanValue (f.scopes db id) (f.catalogEntry c).expr := by
  obtain ⟨s, hs, hrun⟩ := run_windowEach_singleton db id hf hq hd
  rw [deviceTotal, hs]
  dsimp only
  rw [hrun, onlyValue]

/-! ## Totals of several devices -/

/-- Over the joined relations of several devices, the span of a counter is the total of its
    device. -/
theorem run_joinedOver {rest : List ℕ} (db : Database) (hf : f ∈ all) (hq : q.counter = some c)
    (hd : f.Declares q) (hn : (id :: rest).Nodup)
    (hfields : ∃ x ∈ fields, x.expr.isAggregate = true) :
    ∃ g : Group, (f.joinedOver id rest c fields).run db = [g.record fields] ∧
      ∀ i ∈ id :: rest, Expr.spanValue g.members (f.columnOf i (f.catalogEntry c)) =
        f.deviceTotal db q i := by
  have hc : f.Declares c := (spanOf_catalogEntry hf hq hd).1
  have hrow : ∀ p ∈ [c], (f.catalogEntry p).expr.isAggregate = false := by
    intro p hp
    obtain rfl : p = c := by simpa using hp
    rw [isAggregate_catalogEntry hf hc, Quantity.isWindowTotal_counter hq]
  obtain ⟨g, hrun, hspan⟩ := run_joinedStatement db (id :: rest) (f.staged [c]) f.relation
    (fun _ _ => rfl) rfl (nodup_map_relation hn)
    (fun i _ j _ db rs => run_staged_bind hrow (relation_ne_table hf)) hfields
  refine ⟨g, hrun, fun i hi => ?_⟩
  rw [deviceTotal_eq hf hq hd, columnOf, hspan i hi,
    columnSpan_staged hrow (column_catalogEntry_ne_time hf hc)]

theorem run_windowEach {ids : List ℕ} (hf : f ∈ all) (hq : q.counter = some c)
    (hd : f.Declares q) (hn : ids.Nodup) (hids : ids ≠ []) :
    ∃ s, f.windowEach ids q = .ok s ∧
      s.run db = [ids.map fun id => (f.totalName q id, f.deviceTotal db q id)] := by
  match ids, hids with
  | [id], _ =>
    obtain ⟨s, hs, hrun⟩ := run_windowEach_singleton db id hf hq hd
    refine ⟨s, hs, ?_⟩
    rw [hrun, List.map_singleton, deviceTotal_eq hf hq hd]
  | i :: j :: rest, _ =>
    have hc : f.Declares c := (spanOf_catalogEntry hf hq hd).1
    refine ⟨_, (windowEach_eq_ok_iff (by simp)).2 ⟨hd, c, hq, hc, i, j :: rest, rfl, rfl⟩, ?_⟩
    have hfield : ∃ x ∈ (i :: j :: rest).map fun id =>
        (⟨f.spanOf [id] (f.catalogEntry c), f.deviceName id (f.catalogEntry q).column⟩ : Field),
        x.expr.isAggregate = true :=
      ⟨_, List.mem_cons_self, rfl⟩
    obtain ⟨g, hrun, hspan⟩ := run_joinedOver db hf hq hd hn hfield
    rw [hrun, Group.record, List.map_map]
    congr 1
    refine List.map_congr_left fun id hid => ?_
    exact Prod.ext rfl (hspan id hid)

theorem run_windowTotal {ids : List ℕ} (hf : f ∈ all) (hq : q.counter = some c)
    (hd : f.Declares q) (hn : ids.Nodup) (hlen : 2 ≤ ids.length) :
    ∃ s, f.windowTotal ids q = .ok s ∧
      s.run db = [[((f.familyName (f.catalogEntry q).column).identifier,
        some (ids.map fun id => (f.deviceTotal db q id).getD 0).sum)]] := by
  match ids, hlen with
  | i :: j :: rest, hlen =>
    have hc : f.Declares c := (spanOf_catalogEntry hf hq hd).1
    refine ⟨_, (windowTotal_eq_ok_iff hlen).2 ⟨hd, c, hq, hc, i, j :: rest, rfl, rfl⟩, ?_⟩
    have hfield : ∃ x ∈ [(⟨f.spanOf (i :: j :: rest) (f.catalogEntry c),
        f.familyName (f.catalogEntry q).column⟩ : Field)], x.expr.isAggregate = true :=
      ⟨_, List.mem_cons_self, Expr.isAggregate_spanSum (by simp)⟩
    obtain ⟨g, hrun, hspan⟩ := run_joinedOver db hf hq hd hn hfield
    have hvalue : (f.spanOf (i :: j :: rest) (f.catalogEntry c)).value g.members g.lead =
        some ((i :: j :: rest).map fun id => (f.deviceTotal db q id).getD 0).sum := by
      show (Expr.spanSum ((i :: j :: rest).map fun id =>
        (Sign.plus, f.columnOf id (f.catalogEntry c)))).value g.members g.lead = _
      rw [Expr.value_spanSum (by simp), List.map_map, ← Expr.signedTotal_plus]
      congr 2
      refine List.map_congr_left fun id hid => ?_
      rw [Function.comp_apply, hspan id hid]
    rw [hrun, Group.record, List.map_singleton, Field.value, hvalue]

end Family

/-! ## Totals of a combination -/

/-- A contribution of a house to a total over the window.  What is staged beside the counter must
    have a value in each row. -/
structure Contribution.IsWindowTotal (s : Contribution) : Prop where
  family : s.family ∈ Family.all
  quantity : s.quantity.isWindowTotal = true
  declares : s.family.Declares s.quantity
  also : ∀ q ∈ s.also, s.family.Declares q ∧ q.isWindowTotal = false

namespace Contribution
variable {s : Contribution}

instance : Decidable s.IsWindowTotal :=
  decidable_of_iff (s.family ∈ Family.all ∧ s.quantity.isWindowTotal = true ∧
      s.family.Declares s.quantity ∧ ∀ q ∈ s.also, s.family.Declares q ∧ q.isWindowTotal = false)
    ⟨fun ⟨hf, hq, hd, h⟩ => ⟨hf, hq, hd, h⟩, fun ⟨hf, hq, hd, h⟩ => ⟨hf, hq, hd, h⟩⟩

theorem IsWindowTotal.staged (h : s.IsWindowTotal) :
    ∃ c, s.quantity.counter = some c ∧ s.quantity.staged = c ∧ s.staged = c :: s.staged.tail ∧
      ∀ p ∈ s.staged, s.family.Declares p ∧ p.isWindowTotal = false := by
  obtain ⟨hf, hq, hd, halso⟩ := h
  obtain ⟨c, hc⟩ := Option.isSome_iff_exists.1 hq
  have hstaged : s.quantity.staged = c := by rw [Quantity.staged, hc, Option.getD_some]
  refine ⟨c, hc, hstaged, by simp [Contribution.staged, hstaged], fun p hp => ?_⟩
  rw [Contribution.staged, hstaged, List.mem_cons] at hp
  rcases hp with rfl | hp
  · exact ⟨(Family.spanOf_catalogEntry hf hc hd).1, Quantity.isWindowTotal_counter hc⟩
  · exact halso p (List.mem_filter.1 hp).1

end Contribution

namespace Combination
variable {c : Combination} {db : Database} {label : String}

/-- Over the joined relations of a combination, the span of a counter is the total of its
    device. -/
theorem run_joined {fields : List Field} {a : String} {rs : List String} (db : Database)
    (hn : c.relations.Nodup) (hr : c.relations = a :: rs) (hc : ∀ s ∈ c.active, s.IsWindowTotal)
    (hfields : ∃ x ∈ fields, x.expr.isAggregate = true) :
    ∃ g : Group,
      (joinedStatement (c.active.flatMap stagedOf) fields a rs).run db = [g.record fields] ∧
      ∀ p ∈ c.members, Expr.spanValue g.members (.ref (p.1.family.relation p.2)
          (p.1.family.catalogEntry p.1.quantity.staged).column) =
        p.1.family.deviceTotal db p.1.quantity p.2 := by
  have hmember {p : Contribution × ℕ} (hp : p ∈ c.members) : p.1.IsWindowTotal :=
    hc p.1 (mem_active_of_mem_members hp)
  have hrow {p : Contribution × ℕ} (hp : p ∈ c.members) :
      ∀ q ∈ p.1.staged, (p.1.family.catalogEntry q).expr.isAggregate = false := by
    intro q hq
    obtain ⟨c', -, -, -, h⟩ := (hmember hp).staged
    rw [Family.isAggregate_catalogEntry (hmember hp).family (h q hq).1, (h q hq).2]
  rw [relations_eq_map_members] at hn hr
  obtain ⟨g, hrun, hspan⟩ := run_joinedStatement db c.members
    (fun p => p.1.family.staged p.1.staged p.2) (fun p => p.1.family.relation p.2)
    (fun _ _ => rfl) hr (hr ▸ hn)
    (fun p hp _ _ db rs => Family.run_staged_bind (hrow hp)
      (Family.relation_ne_table (hmember hp).family)) hfields
  rw [flatMap_stagedOf]
  refine ⟨g, hrun, fun p hp => ?_⟩
  obtain ⟨c', hcounter, hstaged, hlist, h⟩ := (hmember hp).staged
  have hrows := hrow hp
  have hd : p.1.family.Declares c' := (h c' (by rw [hlist]; simp)).1
  rw [hlist] at hrows
  rw [hspan p hp, hstaged, hlist, Family.columnSpan_staged hrows
      (Family.column_catalogEntry_ne_time (hmember hp).family hd),
    Family.deviceTotal_eq (hmember hp).family hcounter (hmember hp).declares]

theorem run_windowTotal (hn : c.devices.Nodup) (hlen : 2 ≤ c.devices.length)
    (hc : ∀ s ∈ c.active, s.IsWindowTotal) :
    ∃ s, c.windowTotal label = .ok s ∧
      s.run db = [[((c.columnName label).identifier,
        some (Expr.signedTotal (c.members.map fun p =>
          (p.1.sign, (p.1.family.deviceTotal db p.1.quantity p.2).getD 0))))]] := by
  have hrelations : c.relations.Nodup := nodup_relations (fun s hs => (hc s hs).family) hn
  have hlength : 2 ≤ c.relations.length := by
    rwa [relations_eq_map_devices, List.length_map]
  have hmembers : c.members ≠ [] := by
    intro h
    simp [devices, h] at hlen
  have hdeclares : ∀ s ∈ c.active, s.quantity.isWindowTotal = true ∧ s.Declares := by
    intro s hs
    obtain ⟨_, _, _, _, h⟩ := (hc s hs).staged
    exact ⟨(hc s hs).quantity, fun q hq => (h q hq).1⟩
  cases hr : c.relations with
  | nil => simp [hr] at hlength
  | cons a rs =>
    refine ⟨_, (windowTotal_eq_ok_iff (single?_eq_none hlength)).2
      ⟨hdeclares, a, rs, hr, rfl⟩, ?_⟩
    have hterms : ((c.summands (·.quantity.staged)).map fun m => (m.sign, m.expr)) ≠ [] := by
      rw [summands_eq_map_members]
      simpa using hmembers
    have hfield : ∃ x ∈ [(⟨.spanSum ((c.summands (·.quantity.staged)).map fun m =>
        (m.sign, m.expr)), c.columnName label⟩ : Field)], x.expr.isAggregate = true :=
      ⟨_, List.mem_cons_self, Expr.isAggregate_spanSum hterms⟩
    -- All rows fall into one group, over which the span of a column is the total of its device.
    obtain ⟨g, hrun, hspan⟩ := run_joined db hrelations hr hc hfield
    have hvalue : (Expr.spanSum ((c.summands (·.quantity.staged)).map fun m =>
        (m.sign, m.expr))).value g.members g.lead = some (Expr.signedTotal (c.members.map fun p =>
          (p.1.sign, (p.1.family.deviceTotal db p.1.quantity p.2).getD 0))) := by
      rw [Expr.value_spanSum hterms, List.map_map, summands_eq_map_members, List.map_map]
      congr 2
      refine List.map_congr_left fun p hp => ?_
      rw [← hspan p hp]
      rfl
    refine hrun.trans ?_
    rw [Group.record, List.map_singleton, Field.value, hvalue]

end Combination

/-- **Totals over the window do not depend on how they are computed.**  The total of a device is the
    same in a column of its own among others; added up, the totals of all devices give the total of
    a family, and with their signs that of a combination. -/
theorem windowTotals_eq_deviceTotals (db : Database) :
    (∀ f ∈ Family.all, ∀ q : Quantity, q.isWindowTotal = true → f.Declares q →
      (∀ id, ∃ s, f.windowEach [id] q = .ok s ∧
        s.run db = [[(f.totalName q id, f.deviceTotal db q id)]]) ∧
      (∀ ids : List ℕ, ids ≠ [] → ids.Nodup → ∃ s, f.windowEach ids q = .ok s ∧
        s.run db = [ids.map fun id => (f.totalName q id, f.deviceTotal db q id)]) ∧
      (∀ ids : List ℕ, 2 ≤ ids.length → ids.Nodup → ∃ s, f.windowTotal ids q = .ok s ∧
        s.run db = [[((f.familyName (f.catalogEntry q).column).identifier,
          some (ids.map fun id => (f.deviceTotal db q id).getD 0).sum)]])) ∧
    (∀ (c : Combination) (label : String), c.devices.Nodup → 2 ≤ c.devices.length →
      (∀ s ∈ c.active, s.IsWindowTotal) → ∃ s, c.windowTotal label = .ok s ∧
        s.run db = [[((c.columnName label).identifier,
          some (Expr.signedTotal (c.members.map fun p =>
            (p.1.sign, (p.1.family.deviceTotal db p.1.quantity p.2).getD 0))))]]) := by
  constructor
  · intro f hf q hq hd
    obtain ⟨c, hc⟩ := Option.isSome_iff_exists.1 hq
    refine ⟨fun id => ?_, fun ids hids hn => Family.run_windowEach hf hc hd hn hids,
      fun ids hlen hn => Family.run_windowTotal hf hc hd hn hlen⟩
    exact Family.run_windowEach hf hc hd (List.nodup_singleton id) (List.cons_ne_nil id [])
  · intro c label hn hlen hc
    exact Combination.run_windowTotal hn hlen hc

/-- Counters of two generators, the first of which reports at instants at which the second does not,
    and of a heat pump. -/
def counterReadings : Database where
  relation r :=
    if r = Family.generator.table then
      [[(deviceColumn, some 1), (timeColumn, some 0), ("energy_wh", some 100)],
        [(deviceColumn, some 2), (timeColumn, some 0), ("energy_wh", none)],
        [(deviceColumn, some 1), (timeColumn, some 60), ("energy_wh", some 350)]]
    else if r = Family.heatpump.table then
      [[(deviceColumn, some 4), (timeColumn, some 0), ("heat_wh", some 20)],
        [(deviceColumn, some 4), (timeColumn, some 60), ("heat_wh", some 50)]]
    else []
  inWindow _ _ := true
  series _ _ _ := []
  boundary _ t := t
  text _ := none

theorem windowTotals_eq_deviceTotals_heat :
    (∃ s, Family.generator.windowEach [1, 2] .windowHeat = .ok s ∧
      s.run counterReadings =
        [[("generator1.d_heat_wh", some 1733.37), ("generator2.d_heat_wh", none)]]) ∧
    (∃ s, Family.generator.windowTotal [1, 2] .windowHeat = .ok s ∧
      s.run counterReadings = [[("generator.d_heat_wh", some 1733.37)]]) ∧
    (∃ s, Heating.energy [4] [1] = .ok s ∧
      s.run counterReadings = [[("heating.d_heat_wh", some 1763.37)]]) := by
  have hgenerator := (windowTotals_eq_deviceTotals counterReadings).1 .generator (by decide)
    .windowHeat rfl (by decide)
  refine ⟨?_, ?_, ?_⟩
  · obtain ⟨s, hs, hrun⟩ := hgenerator.2.1 [1, 2] (by decide) (by decide)
    exact ⟨s, hs, hrun.trans (by decide +kernel)⟩
  · obtain ⟨s, hs, hrun⟩ := hgenerator.2.2 [1, 2] (by decide) (by decide)
    exact ⟨s, hs, hrun.trans (by decide +kernel)⟩
  · obtain ⟨s, hs, hrun⟩ := (windowTotals_eq_deviceTotals counterReadings).2
      (Heating.combination [4] [1] .windowHeat []) "d_heat_wh" (by decide) (by decide) (by decide)
    exact ⟨s, hs, hrun.trans (by decide +kernel)⟩

end EnergyQuery
