/-
  When composing a statement succeeds, and what it gives.

  Each builder has one lemma, which says exactly when it succeeds and what its
  result then is.  Catalog entries are read with `catalogEntry`, which is total.

  * `entry_eq_ok_iff`, `stage_eq_ok_iff`, `align_eq_ok_iff`, ..: the builders of
    one family;
  * `labelled_cases`, `total_cases`, `windowEach_cases`, `windowTotal_cases`: what a
    target over one family then reads, one device or several.
-/
import EnergyQuery.Proofs.Device.Entries
import EnergyQuery.Proofs.Fallible
import EnergyQuery.Query.Buckets
import EnergyQuery.Query.House

namespace EnergyQuery

open Sql

/-! ## Checks -/

theorem Quantity.requireInstant_eq_ok_iff {q : Quantity} {builder : String} {u : Unit} :
    q.requireInstant builder = .ok u ↔ q.isWindowTotal = false := by
  unfold requireInstant
  split <;> simp_all

theorem Quantity.requireCounter_eq_ok_iff {q c : Quantity} :
    q.requireCounter = .ok c ↔ q.counter = some c := by
  unfold requireCounter
  split <;> simp_all

namespace Family
variable {f : Family} {id : Nat} {ids rest : List Nat} {q : Quantity} {qs : List Quantity}

theorem requireIds_eq_ok_iff {builder : String} {u : Unit} :
    f.requireIds builder ids = .ok u ↔ ids ≠ [] := by
  unfold requireIds
  split <;> simp_all

/-- What asks for devices first succeeds for some only. -/
theorem ids_ne_nil_of_bind {α : Type} {builder : String} {g : Unit → Composed α} {x : α}
    (h : (f.requireIds builder ids >>= g) = .ok x) : ids ≠ [] := by
  obtain ⟨_, hids, -⟩ := Fallible.bind_eq_ok.1 h
  exact requireIds_eq_ok_iff.1 hids

theorem entry_eq_ok_iff {e : Entry} : f.entry q = .ok e ↔ f.Declares q ∧ e = f.catalogEntry q := by
  unfold entry Declares catalogEntry
  cases f.find? q <;> simp [eq_comm]

/-! ## Columns -/

theorem field_eq_ok_iff {x : Field} :
    f.field q = .ok x ↔ f.Declares q ∧ x = (f.catalogEntry q).field := by
  rw [field, Fallible.bind_eq_ok_of fun _ => entry_eq_ok_iff, Fallible.pure_eq_ok, eq_comm]

theorem sum_eq_ok_iff {x : Expr} :
    f.sum ids q = .ok x ↔ ids ≠ [] ∧ f.Declares q ∧ x = f.sumOf ids (f.catalogEntry q) := by
  rw [sum, Fallible.bind_unit_eq_ok requireIds_eq_ok_iff,
    Fallible.bind_eq_ok_of fun _ => entry_eq_ok_iff, Fallible.pure_eq_ok, eq_comm (a := x)]

theorem average_eq_ok_iff {x threshold : Expr} :
    f.average ids q threshold = .ok x ↔
      ids ≠ [] ∧ f.Declares q ∧ x = f.averageOf ids (f.catalogEntry q) threshold := by
  rw [average, Fallible.bind_unit_eq_ok requireIds_eq_ok_iff,
    Fallible.bind_eq_ok_of fun _ => entry_eq_ok_iff, Fallible.pure_eq_ok, eq_comm (a := x)]

theorem windowSpan_eq_ok_iff {x : Expr} :
    f.windowSpan ids q = .ok x ↔
      ids ≠ [] ∧ f.Declares q ∧ x = f.spanOf ids (f.catalogEntry q) := by
  rw [windowSpan, Fallible.bind_unit_eq_ok requireIds_eq_ok_iff,
    Fallible.bind_eq_ok_of fun _ => entry_eq_ok_iff, Fallible.pure_eq_ok, eq_comm (a := x)]

/-! ## Staged relations -/

/-- The scan of one device with `time` and the quantities, over the selected window. -/
def staged (f : Family) (qs : List Quantity) (id : Nat) : Statement :=
  (f.scan id (.time :: qs.map fun q => (f.catalogEntry q).field)).inWindow

theorem stage_eq_ok_iff {l : List Statement} :
    f.stage ids qs = .ok l ↔
      (ids ≠ [] → ∀ q ∈ qs, f.Declares q) ∧ l = ids.map (f.staged qs) := by
  have hm (xs : List Field) : qs.mapM f.field = .ok xs ↔
      (∀ q ∈ qs, f.Declares q) ∧ xs = qs.map fun q => (f.catalogEntry q).field :=
    Fallible.mapM_eq_ok_iff fun q _ x => field_eq_ok_iff
  unfold stage
  cases ids with
  | nil => simp [eq_comm]
  | cons id rest =>
    rw [if_neg (by simp), Fallible.bind_eq_ok_of hm, Fallible.pure_eq_ok]
    simp only [ne_eq, reduceCtorEq, not_false_eq_true, forall_const, eq_comm (a := l)]
    rfl

/-- The devices of one family, staged with `qs` and joined to the first of them. -/
def aligned (f : Family) (id : Nat) (rest : List Nat) (qs : List Quantity) : Alignment where
  staged := (id :: rest).map (f.staged qs)
  anchor := f.relation id
  others := rest.map f.relation
  joins := (rest.map f.relation).map (Join.onTime (f.relation id))
  fields := []

theorem timeJoins_eq {anchor : String} :
    f.timeJoins anchor ids = (ids.map f.relation).map (Join.onTime anchor) := by
  rw [timeJoins, List.map_map]
  rfl

theorem align_eq_ok_iff {a : Alignment} :
    f.align ids qs = .ok a ↔
      ∃ id rest, ids = id :: rest ∧ (∀ q ∈ qs, f.Declares q) ∧ a = f.aligned id rest qs := by
  unfold align
  cases ids with
  | nil => simp
  | cons id rest =>
    rw [Fallible.bind_eq_ok_of fun _ => stage_eq_ok_iff, Fallible.pure_eq_ok, timeJoins_eq]
    constructor
    · rintro ⟨hq, rfl⟩
      exact ⟨id, rest, rfl, hq (by simp), rfl⟩
    · rintro ⟨_, _, hids, hq, rfl⟩
      obtain ⟨rfl, rfl⟩ := List.cons.inj hids
      exact ⟨fun _ => hq, rfl⟩

end Family

theorem name_timeOf {anchor : String} {others : List String} :
    (timeOf anchor others).name = .plain timeColumn := by
  cases others <;> rfl

/-! ## Totals over the window -/

/-- Columns over common table expressions that are joined on equal times. -/
def joinedStatement (ctes : List Statement) (fields : List Field) (a : String) (rs : List String) :
    Statement where
  ctes := ctes
  fields := fields
  source := some (.relation a)
  joins := rs.map (Join.onTime a)

namespace Family
variable {f : Family} {id : Nat} {ids : List Nat} {q c : Quantity} {fields : List Field}
  {x : Statement}

/-- Columns over the relations of several devices, staged with a counter. -/
def joinedOver (f : Family) (id : Nat) (rest : List Nat) (c : Quantity) (fields : List Field) :
    Statement :=
  joinedStatement ((id :: rest).map (f.staged [c])) fields (f.relation id) (rest.map f.relation)

theorem joined_eq_ok_iff :
    f.joined ids c fields = .ok x ↔
      ∃ id rest, ids = id :: rest ∧ f.Declares c ∧ x = f.joinedOver id rest c fields := by
  simp only [joined, Fallible.bind_eq_ok, Fallible.pure_eq_ok, align_eq_ok_iff,
    List.forall_mem_singleton]
  constructor
  · rintro ⟨_, ⟨id, rest, hids, hc, rfl⟩, rfl⟩
    exact ⟨id, rest, hids, hc, rfl⟩
  · rintro ⟨id, rest, hids, hc, rfl⟩
    exact ⟨_, ⟨id, rest, hids, hc, rfl⟩, rfl⟩

theorem windowEach_singleton_eq_ok_iff :
    f.windowEach [id] q = .ok x ↔
      f.Declares q ∧ x = (f.scan id [⟨(f.catalogEntry q).expr,
        f.deviceName id (f.catalogEntry q).column⟩]).inWindow := by
  rw [windowEach, Fallible.bind_unit_eq_ok requireIds_eq_ok_iff,
    Fallible.bind_eq_ok_of fun _ => entry_eq_ok_iff, Fallible.pure_eq_ok, eq_comm (a := x)]
  exact and_iff_right (by simp)

theorem windowTotal_singleton_eq_ok_iff :
    f.windowTotal [id] q = .ok x ↔
      f.Declares q ∧ x = (f.scan id [⟨(f.catalogEntry q).expr,
        f.familyName (f.catalogEntry q).column⟩]).inWindow := by
  rw [windowTotal, Fallible.bind_unit_eq_ok requireIds_eq_ok_iff,
    Fallible.bind_eq_ok_of fun _ => entry_eq_ok_iff, Fallible.pure_eq_ok, eq_comm (a := x)]
  exact and_iff_right (by simp)

/-- Columns over the counters of several devices. -/
theorem spans_eq_ok_iff {builder : String} (hids : ids ≠ []) {g : Entry → Entry → List Field} :
    (do
      f.requireIds builder ids
      let e ← f.entry q
      let counter ← q.requireCounter
      let c ← f.entry counter
      f.joined ids counter (g e c) : Composed Statement) = .ok x ↔
      f.Declares q ∧ ∃ c, q.counter = some c ∧ f.Declares c ∧ ∃ id rest, ids = id :: rest ∧
        x = f.joinedOver id rest c (g (f.catalogEntry q) (f.catalogEntry c)) := by
  rw [Fallible.bind_unit_eq_ok requireIds_eq_ok_iff,
    Fallible.bind_eq_ok_of fun _ => entry_eq_ok_iff]
  simp only [Fallible.bind_eq_ok, Quantity.requireCounter_eq_ok_iff, entry_eq_ok_iff,
    joined_eq_ok_iff]
  constructor
  · rintro ⟨-, hq, c, hc, _, ⟨hd, rfl⟩, id, rest, hids, -, rfl⟩
    exact ⟨hq, c, hc, hd, id, rest, hids, rfl⟩
  · rintro ⟨hq, c, hc, hd, id, rest, hcons, rfl⟩
    exact ⟨hids, hq, c, hc, _, ⟨hd, rfl⟩, id, rest, hcons, hd, rfl⟩

theorem windowEach_eq_ok_iff (hlen : 2 ≤ ids.length) :
    f.windowEach ids q = .ok x ↔
      f.Declares q ∧ ∃ c, q.counter = some c ∧ f.Declares c ∧ ∃ id rest, ids = id :: rest ∧
        x = f.joinedOver id rest c (ids.map fun id =>
          ⟨f.spanOf [id] (f.catalogEntry c), f.deviceName id (f.catalogEntry q).column⟩) := by
  match ids, hlen with
  | i :: j :: rest, _ => exact spans_eq_ok_iff (List.cons_ne_nil i _)

theorem windowTotal_eq_ok_iff (hlen : 2 ≤ ids.length) :
    f.windowTotal ids q = .ok x ↔
      f.Declares q ∧ ∃ c, q.counter = some c ∧ f.Declares c ∧ ∃ id rest, ids = id :: rest ∧
        x = f.joinedOver id rest c
          [⟨f.spanOf ids (f.catalogEntry c), f.familyName (f.catalogEntry q).column⟩] := by
  match ids, hlen with
  | i :: j :: rest, _ => exact spans_eq_ok_iff (List.cons_ne_nil i _)

end Family

/-! ## Columns over all devices of a family -/

namespace Combined
variable {c : Combined} {q : Quantity}

/-- A column is added if its expression can be composed. -/
theorem add_eq_ok_iff {builder : String} {y : Composed Expr} {z : Expr} {x : Combined}
    (hy : ∀ e, y = .ok e ↔ c.ids ≠ [] ∧ c.family.Declares q ∧ e = z) :
    (do
      q.requireInstant builder
      let e ← c.family.entry q
      return c.add q (← y) e.column : Composed Combined) = .ok x ↔
      q.isWindowTotal = false ∧ c.ids ≠ [] ∧ c.family.Declares q ∧
        x = c.add q z (c.family.catalogEntry q).column := by
  rw [Fallible.bind_unit_eq_ok Quantity.requireInstant_eq_ok_iff,
    Fallible.bind_eq_ok_of fun _ => Family.entry_eq_ok_iff]
  simp only [Fallible.bind_eq_ok, Fallible.pure_eq_ok, hy]
  refine and_congr_right fun _ => ?_
  constructor
  · rintro ⟨hq, _, ⟨hids, -, rfl⟩, rfl⟩
    exact ⟨hids, hq, rfl⟩
  · rintro ⟨hids, hq, rfl⟩
    exact ⟨hq, _, ⟨hids, hq, rfl⟩, rfl⟩

theorem sum_eq_ok_iff {x : Combined} :
    c.sum q = .ok x ↔
      q.isWindowTotal = false ∧ c.ids ≠ [] ∧ c.family.Declares q ∧
        x = c.add q (c.family.sumOf c.ids (c.family.catalogEntry q))
          (c.family.catalogEntry q).column :=
  add_eq_ok_iff fun _ => Family.sum_eq_ok_iff

theorem average_eq_ok_iff {x : Combined} {threshold : Expr} :
    c.average q threshold = .ok x ↔
      q.isWindowTotal = false ∧ c.ids ≠ [] ∧ c.family.Declares q ∧
        x = c.add q (c.family.averageOf c.ids (c.family.catalogEntry q) threshold)
          (c.family.catalogEntry q).column :=
  add_eq_ok_iff fun _ => Family.average_eq_ok_iff

theorem alignment_eq_ok_iff {x : Alignment} :
    c.alignment = .ok x ↔
      ∃ id rest, c.ids = id :: rest ∧ (∀ q ∈ c.quantities, c.family.Declares q) ∧
        x = (c.family.aligned id rest c.quantities).compute (c.columns.map (·.2)) := by
  simp only [alignment, Fallible.bind_eq_ok, Fallible.pure_eq_ok, Family.align_eq_ok_iff]
  constructor
  · rintro ⟨_, ⟨id, rest, hids, hq, rfl⟩, rfl⟩
    exact ⟨id, rest, hids, hq, rfl⟩
  · rintro ⟨id, rest, hids, hq, rfl⟩
    exact ⟨_, ⟨id, rest, hids, hq, rfl⟩, rfl⟩

theorem statement_eq_ok_iff {x : Statement} :
    c.statement = .ok x ↔
      ∃ id rest, c.ids = id :: rest ∧ (∀ q ∈ c.quantities, c.family.Declares q) ∧
        x = ((c.family.aligned id rest c.quantities).compute (c.columns.map (·.2))).statement := by
  simp only [statement, Fallible.bind_eq_ok, Fallible.pure_eq_ok, alignment_eq_ok_iff]
  constructor
  · rintro ⟨_, ⟨id, rest, hids, hq, rfl⟩, rfl⟩
    exact ⟨id, rest, hids, hq, rfl⟩
  · rintro ⟨id, rest, hids, hq, rfl⟩
    exact ⟨_, ⟨id, rest, hids, hq, rfl⟩, rfl⟩

end Combined

/-! ## Columns of each device -/

namespace PerDevice
variable {p : PerDevice}

/-- The columns of the channels, for each device. -/
def fields (p : PerDevice) : List Field :=
  p.ids.flatMap fun id => p.channels.map fun c =>
    p.family.deviceField id (p.family.catalogEntry c.quantity) c.label

/-- What is chosen is declared if the channels are. -/
theorem declares_quantities_iff :
    (∀ q ∈ p.quantities, p.family.Declares q) ↔ ∀ c ∈ p.channels, p.family.Declares c.quantity := by
  constructor
  · exact fun h c hc => h c.quantity (List.mem_eraseDups.2 (List.mem_map_of_mem hc))
  · intro h q hq
    obtain ⟨c, hc, rfl⟩ := List.mem_map.1 (List.mem_eraseDups.1 hq)
    exact h c hc

theorem alignment_eq_ok_iff {x : Alignment} :
    p.alignment = .ok x ↔
      ∃ id rest, p.ids = id :: rest ∧ (∀ q ∈ p.quantities, p.family.Declares q) ∧
        x = (p.family.aligned id rest p.quantities).compute p.fields := by
  have hm (ys : List (Entry × Option String)) :
      (p.channels.mapM fun c => do return (← p.family.entry c.quantity, c.label) :
        Composed (List (Entry × Option String))) = .ok ys ↔
        (∀ c ∈ p.channels, p.family.Declares c.quantity) ∧
          ys = p.channels.map fun c => (p.family.catalogEntry c.quantity, c.label) := by
    refine Fallible.mapM_eq_ok_iff fun c _ y => ?_
    rw [Fallible.bind_eq_ok_of fun _ => Family.entry_eq_ok_iff, Fallible.pure_eq_ok, eq_comm (a := y)]
  simp only [alignment, Fallible.bind_eq_ok, Fallible.pure_eq_ok, Family.align_eq_ok_iff, hm]
  constructor
  · rintro ⟨_, ⟨id, rest, hids, hq, rfl⟩, _, ⟨-, rfl⟩, rfl⟩
    refine ⟨id, rest, hids, hq, ?_⟩
    simp only [List.map_map]
    rfl
  · rintro ⟨id, rest, hids, hq, rfl⟩
    refine ⟨_, ⟨id, rest, hids, hq, rfl⟩, _, ⟨declares_quantities_iff.1 hq, rfl⟩, ?_⟩
    simp only [List.map_map]
    rfl

end PerDevice

namespace Family
variable {f : Family} {id : Nat} {ids : List Nat} {q : Quantity} {qs : List Quantity}
  {channels : List Channel}

theorem perDevice_eq_ok_iff {x : Alignment} :
    f.perDevice ids qs = .ok x ↔
      (∀ q ∈ qs, q.isWindowTotal = false) ∧
        PerDevice.alignment { family := f, ids := ids, channels := qs.map ({ quantity := · }) } =
          .ok x := by
  have hall : qs.forM (·.requireInstant "proxy") = .ok () ↔ ∀ q ∈ qs, q.isWindowTotal = false := by
    rw [Fallible.forM_eq_ok_iff]
    exact forall₂_congr fun q _ => Quantity.requireInstant_eq_ok_iff
  rw [perDevice, Fallible.bind_unit_eq_ok hall]

/-- The output label of a channel. -/
def channelLabel (f : Family) (c : Channel) : String :=
  c.label.getD (f.catalogEntry c.quantity).column

theorem forM_requireInstant_eq_ok_iff {builder : String} {u : PUnit} :
    channels.forM (·.quantity.requireInstant builder) = .ok u ↔
      ∀ c ∈ channels, c.quantity.isWindowTotal = false := by
  rw [Fallible.forM_eq_ok_iff]
  exact forall₂_congr fun c _ => Quantity.requireInstant_eq_ok_iff

theorem labelled_singleton_eq_ok_iff {x : Statement} :
    f.labelled [id] channels = .ok x ↔
      (∀ c ∈ channels, c.quantity.isWindowTotal = false) ∧
        (∀ c ∈ channels, f.Declares c.quantity) ∧
          x = (f.scan id (.time :: channels.map fun c =>
            ⟨(f.catalogEntry c.quantity).expr,
              f.deviceName id (f.channelLabel c)⟩)).inWindow.ordered := by
  have hm (ys : List Field) :
      (channels.mapM fun c => do
        let e ← f.entry c.quantity
        return (⟨e.expr, f.deviceName id (c.label.getD e.column)⟩ : Field) :
          Composed (List Field)) = .ok ys ↔
        (∀ c ∈ channels, f.Declares c.quantity) ∧
          ys = channels.map fun c => ⟨(f.catalogEntry c.quantity).expr,
            f.deviceName id (f.channelLabel c)⟩ := by
    refine Fallible.mapM_eq_ok_iff fun c _ y => ?_
    rw [Fallible.bind_eq_ok_of fun _ => entry_eq_ok_iff, Fallible.pure_eq_ok, eq_comm (a := y)]
    rfl
  rw [labelled, Fallible.bind_unit_eq_ok requireIds_eq_ok_iff,
    Fallible.bind_unit_eq_ok forM_requireInstant_eq_ok_iff, Fallible.bind_eq_ok_of hm,
    Fallible.pure_eq_ok, eq_comm (a := x)]
  exact and_iff_right (by simp)

theorem labelled_eq_ok_iff {x : Statement} (hlen : 2 ≤ ids.length) :
    f.labelled ids channels = .ok x ↔
      (∀ c ∈ channels, c.quantity.isWindowTotal = false) ∧
        PerDevice.statement { family := f, ids := ids, channels := channels } = .ok x := by
  match ids, hlen with
  | i :: j :: rest, _ =>
    rw [labelled, Fallible.bind_unit_eq_ok requireIds_eq_ok_iff,
      Fallible.bind_unit_eq_ok forM_requireInstant_eq_ok_iff]
    · exact and_iff_right (by simp)
    · simp

theorem total_singleton_eq_ok_iff {x : Statement} :
    f.total [id] q = .ok x ↔
      q.isWindowTotal = false ∧ f.Declares q ∧
        x = (f.scan id [.time, ⟨(f.catalogEntry q).expr,
          f.familyName (f.catalogEntry q).column⟩]).inWindow.ordered := by
  rw [total, Fallible.bind_unit_eq_ok requireIds_eq_ok_iff,
    Fallible.bind_unit_eq_ok Quantity.requireInstant_eq_ok_iff,
    Fallible.bind_eq_ok_of fun _ => entry_eq_ok_iff, Fallible.pure_eq_ok, eq_comm (a := x)]
  exact and_iff_right (by simp)

theorem total_eq_ok_iff {x : Statement} (hlen : 2 ≤ ids.length) :
    f.total ids q = .ok x ↔
      (Combined.sum { family := f, ids := ids } q >>= Combined.statement) = .ok x := by
  match ids, hlen with
  | i :: j :: rest, _ =>
    rw [total, Fallible.bind_unit_eq_ok requireIds_eq_ok_iff,
      Fallible.bind_unit_eq_ok Quantity.requireInstant_eq_ok_iff,
      Fallible.bind_eq_ok_of fun _ => entry_eq_ok_iff]
    simp only [Fallible.bind_eq_ok, Combined.sum_eq_ok_iff]
    constructor
    · rintro ⟨-, -, -, h⟩
      exact h
    · rintro ⟨c, ⟨hq, -, hd, rfl⟩, h⟩
      exact ⟨by simp, hq, hd, _, ⟨hq, by simp, hd, rfl⟩, h⟩

/-! ### The two forms of a statement -/

/-- Columns of each device: a single device is read directly, several are aligned. -/
theorem labelled_cases {x : Statement} (h : f.labelled ids channels = .ok x) :
    (∀ c ∈ channels, c.quantity.isWindowTotal = false ∧ f.Declares c.quantity) ∧
      ((∃ id, ids = [id] ∧ x = (f.scan id (.time :: channels.map fun c =>
          ⟨(f.catalogEntry c.quantity).expr,
            f.deviceName id (f.channelLabel c)⟩)).inWindow.ordered) ∨
        ∃ id rest, ids = id :: rest ∧
          x = ((f.aligned id rest (PerDevice.mk f ids channels).quantities).compute
            (PerDevice.mk f ids channels).fields).statement) := by
  match ids with
  | [] => exact absurd rfl (ids_ne_nil_of_bind h)
  | [id] =>
    obtain ⟨hq, hd, rfl⟩ := labelled_singleton_eq_ok_iff.1 h
    exact ⟨fun c hc => ⟨hq c hc, hd c hc⟩, .inl ⟨id, rfl, rfl⟩⟩
  | i :: j :: rest =>
    obtain ⟨hq, h⟩ := (labelled_eq_ok_iff (by simp)).1 h
    obtain ⟨a, ha, h⟩ := Fallible.bind_eq_ok.1 h
    obtain rfl := Fallible.pure_eq_ok.1 h
    obtain ⟨id, rest, hids, hd, rfl⟩ := PerDevice.alignment_eq_ok_iff.1 ha
    exact ⟨fun c hc => ⟨hq c hc, PerDevice.declares_quantities_iff.1 hd c hc⟩,
      .inr ⟨id, rest, hids, rfl⟩⟩

/-- The sum of all devices: that of a single device is read directly, several are aligned. -/
theorem total_cases {x : Statement} (h : f.total ids q = .ok x) :
    (q.isWindowTotal = false ∧ f.Declares q) ∧
      ((∃ id, ids = [id] ∧ x = (f.scan id [.time, ⟨(f.catalogEntry q).expr,
          f.familyName (f.catalogEntry q).column⟩]).inWindow.ordered) ∨
        ∃ id rest, ids = id :: rest ∧ x = ((f.aligned id rest [q]).compute
          [⟨f.sumOf ids (f.catalogEntry q),
            f.familyName (f.catalogEntry q).column⟩]).statement) := by
  match ids with
  | [] => exact absurd rfl (ids_ne_nil_of_bind h)
  | [id] =>
    obtain ⟨hq, hd, rfl⟩ := total_singleton_eq_ok_iff.1 h
    exact ⟨⟨hq, hd⟩, .inl ⟨id, rfl, rfl⟩⟩
  | i :: j :: rest =>
    obtain ⟨c, hc, h⟩ := Fallible.bind_eq_ok.1 ((total_eq_ok_iff (by simp)).1 h)
    obtain ⟨hq, -, hd, rfl⟩ := Combined.sum_eq_ok_iff.1 hc
    obtain ⟨id, rest, hids, -, rfl⟩ := Combined.statement_eq_ok_iff.1 h
    exact ⟨⟨hq, hd⟩, .inr ⟨id, rest, hids, rfl⟩⟩

/-- The total of each device over the window: that of a single device is read directly, those of
    several are computed from their counters. -/
theorem windowEach_cases {x : Statement} (h : f.windowEach ids q = .ok x) :
    f.Declares q ∧
      ((∃ id, ids = [id] ∧ x = (f.scan id [⟨(f.catalogEntry q).expr,
          f.deviceName id (f.catalogEntry q).column⟩]).inWindow) ∨
        ∃ c id rest, q.counter = some c ∧ f.Declares c ∧ ids = id :: rest ∧
          x = f.joinedOver id rest c (ids.map fun id =>
            ⟨f.spanOf [id] (f.catalogEntry c), f.deviceName id (f.catalogEntry q).column⟩)) := by
  match ids with
  | [] => exact absurd rfl (ids_ne_nil_of_bind h)
  | [id] =>
    obtain ⟨hd, rfl⟩ := windowEach_singleton_eq_ok_iff.1 h
    exact ⟨hd, .inl ⟨id, rfl, rfl⟩⟩
  | i :: j :: rest =>
    obtain ⟨hd, c, hq, hc, id, rest, hids, rfl⟩ := (windowEach_eq_ok_iff (by simp)).1 h
    exact ⟨hd, .inr ⟨c, id, rest, hq, hc, hids, rfl⟩⟩

/-- The total of all devices over the window: that of a single device is read directly, that of
    several is computed from their counters. -/
theorem windowTotal_cases {x : Statement} (h : f.windowTotal ids q = .ok x) :
    f.Declares q ∧
      ((∃ id, ids = [id] ∧ x = (f.scan id [⟨(f.catalogEntry q).expr,
          f.familyName (f.catalogEntry q).column⟩]).inWindow) ∨
        ∃ c id rest, q.counter = some c ∧ f.Declares c ∧ ids = id :: rest ∧
          x = f.joinedOver id rest c
            [⟨f.spanOf ids (f.catalogEntry c), f.familyName (f.catalogEntry q).column⟩]) := by
  match ids with
  | [] => exact absurd rfl (ids_ne_nil_of_bind h)
  | [id] =>
    obtain ⟨hd, rfl⟩ := windowTotal_singleton_eq_ok_iff.1 h
    exact ⟨hd, .inl ⟨id, rfl, rfl⟩⟩
  | i :: j :: rest =>
    obtain ⟨hd, c, hq, hc, id, rest, hids, rfl⟩ := (windowTotal_eq_ok_iff (by simp)).1 h
    exact ⟨hd, .inr ⟨c, id, rest, hq, hc, hids, rfl⟩⟩

theorem sumField_eq_ok_iff {label : String} {x : Field} :
    f.sumField ids q label = .ok x ↔
      ids ≠ [] ∧ f.Declares q ∧ x = ⟨f.sumOf ids (f.catalogEntry q), f.familyName label⟩ := by
  simp only [sumField, Fallible.bind_eq_ok, Fallible.pure_eq_ok, sum_eq_ok_iff]
  constructor
  · rintro ⟨_, ⟨hids, hq, rfl⟩, rfl⟩
    exact ⟨hids, hq, rfl⟩
  · rintro ⟨hids, hq, rfl⟩
    exact ⟨_, ⟨hids, hq, rfl⟩, rfl⟩

end Family

/-! ## Buckets -/

namespace Buckets
variable {b : Buckets} {f : Family} {ids : List Nat} {q : Quantity} {e : Entry}
  {fields : List Field} {x : Statement}

/-- The buckets, and the readings that are staged after them. -/
def stages (b : Buckets) (f : Family) (ids : List Nat) (e : Entry) : List Statement :=
  b.statement :: ids.map fun id => b.stage f id e

/-- Columns over the buckets and the staged readings. -/
def selected (b : Buckets) (f : Family) (ids : List Nat) (e : Entry) (fields : List Field) :
    Statement where
  ctes := b.stages f ids e
  fields := ⟨.ref relation timeColumn, timeColumn⟩ :: fields
  source := some (.relation relation)
  joins := ids.flatMap (b.lookups f)
  clauses := [.timePresent (some relation), .orderedByTime]

theorem select_eq_ok_iff :
    b.select f ids e fields = .ok x ↔ ids ≠ [] ∧ x = b.selected f ids e fields := by
  rw [select, Fallible.bind_unit_eq_ok Family.requireIds_eq_ok_iff, Fallible.pure_eq_ok,
    eq_comm (a := x)]
  rfl

theorem counter_eq_ok_iff {c : Quantity} :
    b.counter q = .ok c ↔ b.hasNext = true ∧ q.counter = some c := by
  unfold counter
  split
  · next h => simp [h, Quantity.requireCounter_eq_ok_iff]
  · next h => simp [h]

/-- Columns over the readings of a counter, under a label of the total. -/
theorem differences_eq_ok_iff {g : Entry → String → List Field} :
    (do
      let e ← f.entry (← b.counter q)
      let label := (← f.entry q).column
      b.select f ids e (g e label) : Composed Statement) = .ok x ↔
      b.hasNext = true ∧ ∃ c, q.counter = some c ∧ f.Declares c ∧ f.Declares q ∧ ids ≠ [] ∧
        x = b.selected f ids (f.catalogEntry c) (g (f.catalogEntry c) (f.catalogEntry q).column) := by
  simp only [Fallible.bind_eq_ok, counter_eq_ok_iff, Family.entry_eq_ok_iff, select_eq_ok_iff]
  constructor
  · rintro ⟨c, ⟨hb, hq⟩, _, ⟨hc, rfl⟩, _, ⟨hd, rfl⟩, hids, rfl⟩
    exact ⟨hb, c, hq, hc, hd, hids, rfl⟩
  · rintro ⟨hb, c, hq, hc, hd, hids, rfl⟩
    exact ⟨c, ⟨hb, hq⟩, _, ⟨hc, rfl⟩, _, ⟨hd, rfl⟩, hids, rfl⟩

theorem totalEach_eq_ok_iff :
    b.totalEach f ids q = .ok x ↔
      b.hasNext = true ∧ ∃ c, q.counter = some c ∧ f.Declares c ∧ f.Declares q ∧ ids ≠ [] ∧
        x = b.selected f ids (f.catalogEntry c) (ids.map fun id =>
          ⟨difference f id (f.catalogEntry c), f.deviceName id (f.catalogEntry q).column⟩) :=
  differences_eq_ok_iff (g := fun e label =>
    ids.map fun id => ⟨difference f id e, f.deviceName id label⟩)

theorem total_eq_ok_iff :
    b.total f ids q = .ok x ↔
      b.hasNext = true ∧ ∃ c, q.counter = some c ∧ f.Declares c ∧ f.Declares q ∧ ids ≠ [] ∧
        x = b.selected f ids (f.catalogEntry c) [⟨.sum (ids.map fun id =>
          .orZero (difference f id (f.catalogEntry c))), f.familyName (f.catalogEntry q).column⟩] :=
  differences_eq_ok_iff (g := fun e label =>
    [⟨.sum (ids.map fun id => .orZero (difference f id e)), f.familyName label⟩])

theorem readings_eq_ok_iff :
    b.readings f ids q = .ok x ↔
      q.isWindowTotal = false ∧ f.Declares q ∧ ids ≠ [] ∧
        x = b.selected f ids (f.catalogEntry q) (ids.map fun id =>
          ⟨.ref (startOf f id) (f.catalogEntry q).column,
            f.deviceName id (f.catalogEntry q).column⟩) := by
  rw [readings, Fallible.bind_unit_eq_ok Quantity.requireInstant_eq_ok_iff,
    Fallible.bind_eq_ok_of fun _ => Family.entry_eq_ok_iff, select_eq_ok_iff]

end Buckets

end EnergyQuery
