/-
  When composing a combination succeeds, and what it gives.

  A `Summand` is one device of a combination: the sign with which its column
  enters.  The summands stand in the order of the relations, so that the first
  of them belongs to the anchor.

  * `Combination.summands`, `relations_eq_map_summands`: the relations are those
    of the summands;
  * `total_eq_ok_iff`, `windowTotal_eq_ok_iff`: the two statements of a
    combination that is not a single added device;
  * `total_eq_ok_iff_of_single`, `windowTotal_eq_ok_iff_of_single`: those of one
    that is.
-/
import EnergyQuery.Proofs.Device.Naming
import EnergyQuery.Proofs.Query.Composition
import Mathlib.Data.List.Basic

namespace EnergyQuery

open Sql

/-- A column of one relation, and the sign with which it enters a sum. -/
structure Summand where
  sign : Sign
  relation : String
  column : String
  deriving DecidableEq, Repr

/-- The column of a summand. -/
def Summand.expr (m : Summand) : Expr :=
  .ref m.relation m.column

namespace Family
variable {f : Family} {ids : List Nat} {sign : Sign} {q : Quantity}

/-- The column of `q` in each device, with a sign. -/
def summands (f : Family) (sign : Sign) (ids : List Nat) (q : Quantity) : List Summand :=
  ids.map fun id => ⟨sign, f.relation id, (f.catalogEntry q).column⟩

theorem map_relation_summands :
    (f.summands sign ids q).map Summand.relation = ids.map f.relation := by
  simp [summands]

/-- Of several devices, the sum adds the columns. -/
theorem sumOf_eq (h : 2 ≤ ids.length) :
    f.sumOf ids (f.catalogEntry q) =
      .signedSum ((f.summands .plus ids q).map fun m => (m.sign, .orZero m.expr)) := by
  match ids, h with
  | i :: j :: rest, _ =>
    rw [sumOf, Expr.sum, summands, List.map_map, List.map_map]
    · rfl
    · simp

end Family

namespace Contribution
variable {s : Contribution} {q : Quantity}

/-- The catalog has every staged quantity. -/
def Declares (s : Contribution) : Prop :=
  ∀ q ∈ s.staged, s.family.Declares q

instance : Decidable s.Declares :=
  inferInstanceAs (Decidable (∀ q ∈ s.staged, s.family.Declares q))

/-- What is added up is staged, a window total as its counter. -/
theorem counter_mem_staged : s.quantity.staged ∈ s.staged := by
  simp [staged]

theorem quantity_mem_staged (h : s.quantity.isWindowTotal = false) : s.quantity ∈ s.staged := by
  have hnone : s.quantity.counter = none := by simpa [Quantity.isWindowTotal] using h
  simp [staged, Quantity.staged, hnone]

/-- The column of `q` in each device. -/
def summands (s : Contribution) (q : Quantity) : List Summand :=
  s.family.summands s.sign s.ids q

theorem map_relation_summands : (s.summands q).map Summand.relation = s.relations :=
  Family.map_relation_summands

theorem terms_eq_ok_iff {f : Expr → Expr} {l : List (Sign × Expr)} :
    s.terms q f = .ok l ↔
      s.family.Declares q ∧ l = (s.summands q).map fun m => (m.sign, f m.expr) := by
  rw [terms, Fallible.bind_eq_ok_of fun _ => Family.entry_eq_ok_iff, Fallible.pure_eq_ok,
    summands, Family.summands, List.map_map, eq_comm (a := l)]
  rfl

end Contribution

namespace Combination
variable {c : Combination} {s : Contribution} {id : Nat} {label : String}

theorem ids_ne_nil_of_mem_active (h : s ∈ c.active) : s.ids ≠ [] := by
  simpa using (List.mem_filter.1 h).2

theorem active_ne_nil_iff : c.active ≠ [] ↔ ∃ s ∈ c.contributions, s.ids ≠ [] := by
  simp [active, List.filter_eq_nil_iff]

theorem relations_ne_nil (h : c.active ≠ []) : c.relations ≠ [] := by
  obtain ⟨s, hs⟩ := List.exists_mem_of_ne_nil _ h
  obtain ⟨id, hid⟩ := List.exists_mem_of_ne_nil _ (ids_ne_nil_of_mem_active hs)
  exact List.ne_nil_of_mem (List.mem_flatMap.2 ⟨s, hs, List.mem_map_of_mem hid⟩)

/-- The columns that a combination adds and subtracts: of each contribution, that of the quantity
    that `q` chooses for it. -/
def summands (c : Combination) (q : Contribution → Quantity) : List Summand :=
  c.active.flatMap fun s => s.summands (q s)

theorem relations_eq_map_summands (q : Contribution → Quantity) :
    c.relations = (c.summands q).map Summand.relation := by
  rw [relations, summands, List.map_flatMap]
  exact List.flatMap_congr fun s _ => Contribution.map_relation_summands.symm

theorem summands_ne_nil {q : Contribution → Quantity} {a : String} {rs : List String}
    (hr : c.relations = a :: rs) : c.summands q ≠ [] := by
  intro h
  rw [relations_eq_map_summands q, h] at hr
  simp at hr

/-- The devices of a combination, each with its contribution. -/
def members (c : Combination) : List (Contribution × Nat) :=
  c.active.flatMap fun s => s.ids.map (s, ·)

/-- The devices of a combination, each with its family. -/
def devices (c : Combination) : List (Family × Nat) :=
  c.members.map fun p => (p.1.family, p.2)

theorem mem_active_of_mem_members {p : Contribution × Nat} (h : p ∈ c.members) : p.1 ∈ c.active := by
  obtain ⟨s, hs, hp⟩ := List.mem_flatMap.1 h
  obtain ⟨id, -, rfl⟩ := List.mem_map.1 hp
  exact hs

theorem flatMap_active {α : Type} (g : Contribution → Nat → α) :
    (c.active.flatMap fun s => s.ids.map (g s)) = c.members.map fun p => g p.1 p.2 := by
  rw [members, List.map_flatMap]
  refine List.flatMap_congr fun s _ => ?_
  rw [List.map_map]
  rfl

theorem relations_eq_map_members : c.relations = c.members.map fun p => p.1.family.relation p.2 :=
  flatMap_active fun s id => s.family.relation id

theorem relations_eq_map_devices : c.relations = c.devices.map fun d => d.1.relation d.2 := by
  rw [relations_eq_map_members, devices, List.map_map]
  rfl

/-- Different devices of a house have different relations. -/
theorem nodup_relations (hf : ∀ s ∈ c.active, s.family ∈ Family.all) (hd : c.devices.Nodup) :
    c.relations.Nodup := by
  have hmem : ∀ d ∈ c.devices, d.1 ∈ Family.all := by
    intro d hd
    obtain ⟨p, hp, rfl⟩ := List.mem_map.1 hd
    exact hf p.1 (mem_active_of_mem_members hp)
  rw [relations_eq_map_devices]
  refine List.Nodup.map_on (fun x hx y hy h => ?_) hd
  obtain ⟨hfam, hid⟩ := (Family.relation_inj_of_mem_all (hmem x hx) (hmem y hy)).1 h
  exact Prod.ext hfam hid

theorem summands_eq_map_members (q : Contribution → Quantity) :
    c.summands q = c.members.map fun p =>
      ⟨p.1.sign, p.1.family.relation p.2, (p.1.family.catalogEntry (q p.1)).column⟩ :=
  flatMap_active fun s id => Summand.mk s.sign (s.family.relation id)
    (s.family.catalogEntry (q s)).column

/-- The scans of a contribution. -/
def stagedOf (s : Contribution) : List Statement :=
  s.ids.map (s.family.staged s.staged)

theorem flatMap_stagedOf :
    c.active.flatMap stagedOf = c.members.map fun p => p.1.family.staged p.1.staged p.2 :=
  flatMap_active fun s id => s.family.staged s.staged id

theorem stage_eq_ok_iff {l : List Statement} :
    c.stage = .ok l ↔ (∀ s ∈ c.active, s.Declares) ∧ l = c.active.flatMap stagedOf := by
  have hm (ls : List (List Statement)) :
      c.active.mapM (fun s => s.family.stage s.ids s.staged) = .ok ls ↔
        (∀ s ∈ c.active, s.Declares) ∧ ls = c.active.map stagedOf := by
    refine Fallible.mapM_eq_ok_iff fun s hs l => ?_
    rw [Family.stage_eq_ok_iff]
    exact and_congr_left fun _ => forall_prop_of_true (ids_ne_nil_of_mem_active hs)
  rw [stage, Fallible.bind_eq_ok_of hm, Fallible.pure_eq_ok, eq_comm (a := l), List.flatMap_def]

theorem mapM_terms_eq_ok_iff {q : Contribution → Quantity} {f : Expr → Expr}
    {ls : List (List (Sign × Expr))} :
    c.active.mapM (fun s => s.terms (q s) f) = .ok ls ↔
      (∀ s ∈ c.active, s.family.Declares (q s)) ∧
        ls = c.active.map fun s => (s.summands (q s)).map fun m => (m.sign, f m.expr) :=
  Fallible.mapM_eq_ok_iff fun _ _ _ => Contribution.terms_eq_ok_iff

theorem flatten_terms (q : Contribution → Quantity) (f : Expr → Expr) :
    (c.active.map fun s => (s.summands (q s)).map fun m => (m.sign, f m.expr)).flatten =
      (c.summands q).map fun m => (m.sign, f m.expr) := by
  rw [summands, List.map_flatMap, List.flatMap_def]

/-! ## The anchor and its joins -/

theorem anchor_eq_ok_iff {a : String} : c.anchor = .ok a ↔ ∃ rs, c.relations = a :: rs := by
  unfold anchor relations
  cases hactive : c.active with
  | nil => simp
  | cons s more =>
    have hmem : s ∈ c.active := by simp [hactive]
    have hids := ids_ne_nil_of_mem_active hmem
    obtain ⟨f, ids, sign, q, also⟩ := s
    cases ids with
    | nil => exact absurd rfl hids
    | cons id ids => simp [Contribution.relations]

/-- Only the first device of the first source is left out. -/
theorem flatten_timeJoins {a : String} :
    (c.active.mapIdx fun i s =>
      s.family.timeJoins a (if i = 0 then s.ids.tail else s.ids)).flatten =
        c.relations.tail.map (Join.onTime a) := by
  unfold relations
  cases hactive : c.active with
  | nil => rfl
  | cons s more =>
    have hmem : s ∈ c.active := by simp [hactive]
    have hids := ids_ne_nil_of_mem_active hmem
    have hmore : (more.mapIdx fun i s =>
        s.family.timeJoins a (if i + 1 = 0 then s.ids.tail else s.ids)) =
          more.map fun s => s.relations.map (Join.onTime a) :=
      List.ext_getElem (by simp) fun i _ _ => by simp [Family.timeJoins_eq, Contribution.relations]
    obtain ⟨id, ids, hcons⟩ := List.exists_cons_of_ne_nil hids
    have hrelations : s.relations = s.family.relation id :: ids.map s.family.relation := by
      rw [Contribution.relations, hcons, List.map_cons]
    rw [List.mapIdx_cons, List.flatten_cons, hmore, ← List.flatMap_def, ← List.map_flatMap,
      if_pos rfl, hcons, Family.timeJoins_eq, List.flatMap_cons, hrelations, List.tail_cons,
      List.cons_append, List.tail_cons, List.map_append]

theorem joins_eq_ok_iff {js : List Join} :
    c.joins = .ok js ↔ ∃ a rs, c.relations = a :: rs ∧ js = rs.map (Join.onTime a) := by
  simp only [joins, Fallible.bind_eq_ok, Fallible.pure_eq_ok, anchor_eq_ok_iff, flatten_timeJoins]
  constructor
  · rintro ⟨a, ⟨rs, hr⟩, rfl⟩
    exact ⟨a, rs, hr, by rw [hr, List.tail_cons]⟩
  · rintro ⟨a, rs, hr, rfl⟩
    exact ⟨a, ⟨rs, hr⟩, by rw [hr, List.tail_cons]⟩

/-- The relations of a combination, joined to the first of them. -/
def aligned (c : Combination) (a : String) (rs : List String) : Alignment where
  staged := c.active.flatMap stagedOf
  anchor := a
  others := rs
  joins := rs.map (Join.onTime a)
  fields := []

theorem alignment_eq_ok_iff {x : Alignment} :
    c.alignment = .ok x ↔
      (∀ s ∈ c.active, s.Declares) ∧ ∃ a rs, c.relations = a :: rs ∧ x = c.aligned a rs := by
  rw [alignment, Fallible.bind_eq_ok_of fun _ => stage_eq_ok_iff]
  simp only [Fallible.bind_eq_ok, joins_eq_ok_iff]
  refine and_congr_right fun _ => ?_
  constructor
  · rintro ⟨_, ⟨a, rs, hr, rfl⟩, hx⟩
    rw [hr] at hx
    exact ⟨a, rs, hr, (Except.ok.inj hx).symm⟩
  · rintro ⟨a, rs, hr, rfl⟩
    exact ⟨_, ⟨a, rs, hr, rfl⟩, by rw [hr]; rfl⟩

/-! ## A single added device -/

theorem single?_eq_some (h : c.single? = some (s, id)) :
    c.active = [s] ∧ s.ids = [id] ∧ s.sign = .plus := by
  unfold single? at h
  split at h
  · next t ht =>
    split at h
    · next i hi hs =>
      obtain ⟨rfl, rfl⟩ := Prod.mk.inj (Option.some.inj h)
      exact ⟨ht, hi, hs⟩
    · simp at h
  · simp at h

/-- Two devices are not a single one. -/
theorem single?_eq_none (h : 2 ≤ c.relations.length) : c.single? = none := by
  cases hs : c.single? with
  | none => rfl
  | some p =>
    obtain ⟨ha, hi, -⟩ := single?_eq_some hs
    simp [relations, Contribution.relations, ha, hi] at h

theorem total_eq_ok_iff_of_single {x : Statement} (h : c.single? = some (s, id)) :
    c.total label = .ok x ↔
      s.quantity.isWindowTotal = false ∧ s.family.Declares s.quantity ∧
        x = (s.family.scan id [.time, ⟨(s.family.catalogEntry s.quantity).expr,
          c.columnName label⟩]).inWindow.ordered := by
  have hall : (c.active.forM (·.quantity.requireInstant c.name) = .ok ()) ↔
      s.quantity.isWindowTotal = false := by
    rw [Fallible.forM_eq_ok_iff, (single?_eq_some h).1, List.forall_mem_singleton,
      Quantity.requireInstant_eq_ok_iff]
  rw [total, Fallible.bind_unit_eq_ok hall, h]
  refine and_congr_right fun _ => ?_
  rw [Fallible.bind_eq_ok_of fun _ => Family.entry_eq_ok_iff, Fallible.pure_eq_ok,
    eq_comm (a := x)]

theorem requireWindowTotals_eq_ok_iff :
    c.requireWindowTotals = .ok () ↔ ∀ s ∈ c.active, s.quantity.isWindowTotal = true := by
  rw [requireWindowTotals, Fallible.forM_eq_ok_iff]
  refine forall₂_congr fun s _ => ?_
  split <;> simp_all

theorem windowTotal_eq_ok_iff_of_single {x : Statement} (h : c.single? = some (s, id)) :
    c.windowTotal label = .ok x ↔
      s.quantity.isWindowTotal = true ∧ s.family.Declares s.quantity ∧
        x = (s.family.scan id [⟨(s.family.catalogEntry s.quantity).expr,
          c.columnName label⟩]).inWindow := by
  have hall : c.requireWindowTotals = .ok () ↔ s.quantity.isWindowTotal = true := by
    rw [requireWindowTotals_eq_ok_iff, (single?_eq_some h).1, List.forall_mem_singleton]
  rw [windowTotal, Fallible.bind_unit_eq_ok hall, h]
  refine and_congr_right fun _ => ?_
  rw [Fallible.bind_eq_ok_of fun _ => Family.entry_eq_ok_iff, Fallible.pure_eq_ok,
    eq_comm (a := x)]

/-! ## Several devices -/

theorem sumField_eq_ok_iff {x : Field} (h : c.single? = none) :
    c.sumField label = .ok x ↔
      (∀ s ∈ c.active, s.family.Declares s.quantity) ∧
        x = ⟨.signedSum ((c.summands (·.quantity)).map fun m => (m.sign, .orZero m.expr)),
          c.columnName label⟩ := by
  rw [sumField, h]
  dsimp only
  rw [Fallible.bind_eq_ok_of fun _ => mapM_terms_eq_ok_iff, Fallible.pure_eq_ok, flatten_terms,
    eq_comm (a := x)]

theorem spanField_eq_ok_iff {x : Field} :
    c.spanField label = .ok x ↔
      (∀ s ∈ c.active, s.family.Declares s.quantity.staged) ∧
        x = ⟨.spanSum ((c.summands (·.quantity.staged)).map fun m => (m.sign, m.expr)),
          c.columnName label⟩ := by
  rw [spanField, Fallible.bind_eq_ok_of fun _ => mapM_terms_eq_ok_iff, Fallible.pure_eq_ok,
    flatten_terms, eq_comm (a := x)]
  rfl

/-- The signed sum over the joined relations. -/
theorem total_eq_ok_iff {x : Statement} (h : c.single? = none) :
    c.total label = .ok x ↔
      (∀ s ∈ c.active, s.quantity.isWindowTotal = false ∧ s.Declares) ∧
        ∃ a rs, c.relations = a :: rs ∧
          x = ((c.aligned a rs).compute [⟨.signedSum ((c.summands (·.quantity)).map fun m =>
            (m.sign, .orZero m.expr)), c.columnName label⟩]).statement := by
  have hall : (c.active.forM (·.quantity.requireInstant c.name) = .ok ()) ↔
      ∀ s ∈ c.active, s.quantity.isWindowTotal = false := by
    rw [Fallible.forM_eq_ok_iff]
    exact forall₂_congr fun s _ => Quantity.requireInstant_eq_ok_iff
  rw [total, Fallible.bind_unit_eq_ok hall, h]
  simp only [Fallible.bind_eq_ok, Fallible.pure_eq_ok, alignment_eq_ok_iff,
    sumField_eq_ok_iff h]
  constructor
  · rintro ⟨hw, _, ⟨hd, a, rs, hr, rfl⟩, _, ⟨-, rfl⟩, rfl⟩
    exact ⟨fun s hs => ⟨hw s hs, hd s hs⟩, a, rs, hr, rfl⟩
  · rintro ⟨hwd, a, rs, hr, rfl⟩
    have hw s hs := (hwd s hs).1
    have hd s hs := (hwd s hs).2
    have hquantity : ∀ s ∈ c.active, s.family.Declares s.quantity := fun s hs =>
      hd s hs _ (Contribution.quantity_mem_staged (hw s hs))
    exact ⟨hw, _, ⟨hd, a, rs, hr, rfl⟩, _, ⟨hquantity, rfl⟩, rfl⟩

/-- The signed sum of the spans over the joined relations. -/
theorem windowTotal_eq_ok_iff {x : Statement} (h : c.single? = none) :
    c.windowTotal label = .ok x ↔
      (∀ s ∈ c.active, s.quantity.isWindowTotal = true ∧ s.Declares) ∧
        ∃ a rs, c.relations = a :: rs ∧
          x = joinedStatement (c.active.flatMap stagedOf)
            [⟨.spanSum ((c.summands (·.quantity.staged)).map fun m => (m.sign, m.expr)),
              c.columnName label⟩] a rs := by
  rw [windowTotal, Fallible.bind_unit_eq_ok requireWindowTotals_eq_ok_iff, h]
  dsimp only
  rw [Fallible.bind_eq_ok_of fun _ => stage_eq_ok_iff,
    Fallible.bind_eq_ok_of fun _ => spanField_eq_ok_iff]
  simp only [Fallible.bind_eq_ok, Fallible.pure_eq_ok, anchor_eq_ok_iff, joins_eq_ok_iff]
  constructor
  · rintro ⟨hw, hd, -, a, ⟨rs, hr⟩, _, ⟨_, _, hr', rfl⟩, rfl⟩
    obtain ⟨rfl, rfl⟩ := List.cons.inj (hr.symm.trans hr')
    exact ⟨fun s hs => ⟨hw s hs, hd s hs⟩, a, rs, hr, rfl⟩
  · rintro ⟨hwd, a, rs, hr, rfl⟩
    have hcounter : ∀ s ∈ c.active, s.family.Declares s.quantity.staged := fun s hs =>
      (hwd s hs).2 _ Contribution.counter_mem_staged
    exact ⟨fun s hs => (hwd s hs).1, fun s hs => (hwd s hs).2, hcounter, a, ⟨rs, hr⟩, _,
      ⟨a, rs, hr, rfl⟩, rfl⟩

end Combination

end EnergyQuery
