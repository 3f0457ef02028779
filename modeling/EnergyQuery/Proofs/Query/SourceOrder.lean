/-
  The order of the devices of a combination.

  Relations, common table expressions, joins and the terms of the signed sums are
  made by walking through the sources one by one, each on its own.  All of them
  stand in the order of the devices, source by source, so that they belong
  together place by place.

  * `Combination.ofSources`: a combination that is made source by source;
  * `Combination.InOrder`: what stands in the order of the devices;
  * `Combination.Deviceless`: what fails without any device;
  * `Combination.source_order`: one or the other holds.
-/
import EnergyQuery.Proofs.Query.Combining
import EnergyQuery.Proofs.Sql.Rendering
import EnergyQuery.Proofs.Sql.SignedSum

namespace EnergyQuery

open Sql

/-- A source of a family of the house, with quantities that the family declares. -/
structure Contribution.Known (s : Contribution) : Prop where
  family : s.family ∈ Family.all
  quantity : s.family.Declares s.quantity
  also : ∀ q ∈ s.also, s.family.Declares q

/-- What it reads for the sums is declared too. -/
theorem Contribution.Known.counter {s : Contribution} (h : s.Known) :
    s.family.Declares s.quantity.staged := by
  cases hc : s.quantity.counter with
  | none => simpa [Quantity.staged, hc] using h.quantity
  | some c =>
    have hspan := Family.spanOf_catalogEntry h.family hc h.quantity
    simpa [Quantity.staged, hc] using hspan.1

theorem Contribution.Known.declares {s : Contribution} (h : s.Known) : s.Declares := by
  intro q hq
  rcases List.mem_cons.1 hq with rfl | hq
  · exact h.counter
  · exact h.also q (List.mem_filter.1 hq).1

/-- The join on equal times, as it is written. -/
theorem Sql.Join.text_onTime {a r : String} :
    (Join.onTime a r).text =
      "FULL OUTER JOIN " ++ r ++ " ON " ++ a ++ ".time = " ++ r ++ ".time" := by
  have hkind : "FULL OUTER JOIN " = "FULL OUTER" ++ " JOIN " := rfl
  have htime : ".time" = "." ++ "time" := rfl
  have hequal : ".time = " = "." ++ ("time" ++ " = ") := rfl
  rw [Join.text, Join.render_tokens, hkind, hequal, htime]
  show "FULL OUTER" ++ " JOIN " ++ r ++ " ON " ++
    (a ++ "." ++ "time" ++ " = " ++ (r ++ "." ++ "time")) = _
  simp only [String.append_assoc]

namespace Combination

/-- The combination of the sources, added one after the other. -/
def ofSources (name : String) (sources : List Contribution) : Combination :=
  sources.foldl add { name := name }

theorem foldl_add (c : Combination) (sources : List Contribution) :
    sources.foldl add c = { c with contributions := c.contributions ++ sources } := by
  induction sources generalizing c with
  | nil => simp
  | cons s sources ih => rw [List.foldl_cons, ih, add, List.append_assoc, List.singleton_append]

theorem ofSources_eq {name : String} {sources : List Contribution} :
    ofSources name sources = ⟨name, sources⟩ := by
  rw [ofSources, foldl_add, List.nil_append]

/-- The relation of a device. -/
def relationOf (p : Contribution × ℕ) : String :=
  p.1.family.relation p.2

/-- The column of a quantity in the relation of a device. -/
def columnText (p : Contribution × ℕ) (q : Quantity) : String :=
  relationOf p ++ "." ++ (p.1.family.catalogEntry q).column

/-- Everything that is made of the devices stands in their order. -/
structure InOrder (c : Combination) : Prop where
  /-- Every device of every source, in the order of the sources. -/
  members : c.members = c.contributions.flatMap fun s => s.ids.map (s, ·)
  relations : c.relations = c.members.map relationOf
  staged : ∃ ctes, c.stage = .ok ctes ∧ ctes.map (·.name) = c.relations.map some
  /-- All relations but the anchor are joined to it. -/
  joined : ∃ a others, c.relations = a :: others ∧ c.anchor = .ok a ∧
    ∃ js, c.joins = .ok js ∧ js.map Join.text = others.map fun r =>
      "FULL OUTER JOIN " ++ r ++ " ON " ++ a ++ ".time = " ++ r ++ ".time"
  /-- A term for each device, with the sign of its source. -/
  sum : c.single? = none → ∀ label, ∃ x, c.sumField label = .ok x ∧ x.name = c.columnName label ∧
    x.expr.text = writtenSum .wide (c.members.map fun p =>
      (p.1.sign, "COALESCE(" ++ columnText p p.1.quantity ++ ", 0)"))
  /-- Two terms for each device, the first with the sign of its source. -/
  span : ∀ label, ∃ x, c.spanField label = .ok x ∧ x.name = c.columnName label ∧
    x.expr.text = writtenSum .tight (c.members.flatMap fun p =>
      [(p.1.sign, "COALESCE(MAX(" ++ columnText p p.1.quantity.staged ++ "),0)"),
        (p.1.sign.opposite, "COALESCE(MIN(" ++ columnText p p.1.quantity.staged ++ "),0)")])

/-- Nothing can be made without a device. -/
structure Deviceless (c : Combination) : Prop where
  anchor : c.anchor = .error (.noDevice c.name)
  joins : c.joins = .error (.noDevice c.name)
  alignment : c.alignment = .error (.noDevice c.name)
  total : ∀ label, c.total label = .error (.noDevice c.name)
  windowTotal : ∀ label, c.windowTotal label = .error (.noDevice c.name)

section
variable {c : Combination}

/-- Sources without devices have no members. -/
theorem members_eq : c.members = c.contributions.flatMap fun s => s.ids.map (s, ·) := by
  rw [members, active]
  induction c.contributions with
  | nil => rfl
  | cons s sources ih =>
    rw [List.flatMap_cons, ← ih]
    cases hids : s.ids with
    | nil => rw [List.filter_cons_of_neg (by simp [hids]), List.map_nil, List.nil_append]
    | cons id ids => rw [List.filter_cons_of_pos (by simp [hids]), List.flatMap_cons, hids]

/-- What is added up is a column of each device. -/
theorem map_summands_eq {q : Contribution → Quantity} {g : Expr → Expr} :
    (c.summands q).map (fun m => (m.sign, g m.expr)) = c.members.map fun p =>
      (p.1.sign, g (.ref (relationOf p) (p.1.family.catalogEntry (q p.1)).column)) := by
  rw [summands_eq_map_members, List.map_map]
  rfl

theorem exists_sumField (h : ∀ s ∈ c.active, s.Known) (hsingle : c.single? = none)
    (label : String) :
    ∃ x, c.sumField label = .ok x ∧ x.name = c.columnName label ∧
      x.expr.text = writtenSum .wide (c.members.map fun p =>
        (p.1.sign, "COALESCE(" ++ columnText p p.1.quantity ++ ", 0)")) := by
  refine ⟨_, (sumField_eq_ok_iff hsingle).2 ⟨fun s hs => (h s hs).quantity, rfl⟩, rfl, ?_⟩
  have hlevel : ∀ t ∈ (c.summands (·.quantity)).map fun m => (m.sign, Expr.orZero m.expr),
      1 ≤ t.2.level := by
    intro t ht
    obtain ⟨m, -, rfl⟩ := List.mem_map.1 ht
    exact Nat.le_succ 1
  show (Expr.signedSum _).write .wide = _
  rw [Expr.write_signedSum hlevel, map_summands_eq, List.map_map]
  exact congrArg (writtenSum .wide) (List.map_congr_left fun p _ => congrArg _ Expr.text_orZero)

theorem exists_spanField (h : ∀ s ∈ c.active, s.Known) (label : String) :
    ∃ x, c.spanField label = .ok x ∧ x.name = c.columnName label ∧
      x.expr.text = writtenSum .tight (c.members.flatMap fun p =>
        [(p.1.sign, "COALESCE(MAX(" ++ columnText p p.1.quantity.staged ++ "),0)"),
          (p.1.sign.opposite, "COALESCE(MIN(" ++ columnText p p.1.quantity.staged ++ "),0)")]) := by
  refine ⟨_, spanField_eq_ok_iff.2 ⟨fun s hs => (h s hs).counter, rfl⟩, rfl, ?_⟩
  rw [Expr.text_spanSum, map_summands_eq (g := fun e => e), List.flatMap_map]
  rfl

/-- **With some device, everything stands in the order of the devices.** -/
theorem inOrder (h : ∀ s ∈ c.contributions, s.Known) (hne : c.active ≠ []) : c.InOrder := by
  have hactive : ∀ s ∈ c.active, s.Known := fun s hs => h s (List.mem_filter.1 hs).1
  obtain ⟨a, others, hr⟩ := List.exists_cons_of_ne_nil (relations_ne_nil hne)
  constructor
  case members => exact members_eq
  case relations => exact relations_eq_map_members
  case staged =>
    refine ⟨_, stage_eq_ok_iff.2 ⟨fun s hs => (hactive s hs).declares, rfl⟩, ?_⟩
    rw [flatMap_stagedOf, relations_eq_map_members, List.map_map, List.map_map]
    rfl
  case joined =>
    refine ⟨a, others, hr, anchor_eq_ok_iff.2 ⟨others, hr⟩, _,
      joins_eq_ok_iff.2 ⟨a, others, hr, rfl⟩, ?_⟩
    rw [List.map_map]
    exact List.map_congr_left fun r _ => Join.text_onTime
  case sum => exact exists_sumField hactive
  case span => exact exists_spanField hactive

/-- **Without any device, nothing can be made.** -/
theorem deviceless (hactive : c.active = []) : c.Deviceless := by
  have hsingle : c.single? = none := by rw [single?, hactive]
  have hstage : c.stage = .ok [] := by rw [stage, hactive]; rfl
  have hspan (label : String) : ∃ x, c.spanField label = .ok x := by
    rw [spanField, hactive]
    exact ⟨_, rfl⟩
  have hanchor : c.anchor = .error (.noDevice c.name) := by rw [anchor, hactive]
  have hjoins : c.joins = .error (.noDevice c.name) := by rw [joins, hanchor]; rfl
  have halignment : c.alignment = .error (.noDevice c.name) := by
    rw [alignment, hstage, hjoins]
    rfl
  refine ⟨hanchor, hjoins, halignment, fun label => ?_, fun label => ?_⟩
  · rw [total, hactive, hsingle, halignment]
    rfl
  · obtain ⟨x, hx⟩ := hspan label
    rw [windowTotal, requireWindowTotals, hactive, hsingle, hstage, hx, hanchor]
    rfl

/-- **A combination made source by source keeps its devices in order.**  With some device, its
    relations, common table expressions, joins and signed terms stand in the order of the devices;
    without any, none of its statements can be composed. -/
theorem source_order {name : String} {sources : List Contribution}
    (hs : ∀ s ∈ sources, s.Known) :
    ((∃ s ∈ sources, s.ids ≠ []) →
        (ofSources name sources).isEmpty = false ∧ (ofSources name sources).InOrder) ∧
      ((∀ s ∈ sources, s.ids = []) →
        (ofSources name sources).isEmpty = true ∧ (ofSources name sources).Deviceless) := by
  rw [ofSources_eq]
  constructor
  · intro hsome
    have hne : (Combination.mk name sources).active ≠ [] := active_ne_nil_iff.2 hsome
    exact ⟨by simpa [isEmpty] using hne, inOrder hs hne⟩
  · intro hnone
    have hnil : (Combination.mk name sources).active = [] := by
      simpa [active, List.filter_eq_nil_iff] using hnone
    exact ⟨by simp [isEmpty, hnil], deviceless hnil⟩

/-- Inverters without a device, batteries that are subtracted, and one of them added again. -/
def storage : List Contribution :=
  [⟨.solar, [], .plus, .power, []⟩, ⟨.battery, [2, 3], .minus, .power, []⟩,
    ⟨.battery, [2], .plus, .power, [.charge]⟩]

theorem source_order_storage :
    (∃ x, (ofSources "storage" storage).sumField "power_w" = .ok x ∧
      x.expr.text = "-COALESCE(battery2.power_w, 0) - COALESCE(battery3.power_w, 0)" ++
        " + COALESCE(battery2.power_w, 0)") ∧
      (ofSources "storage" (storage.take 1)).total "power_w" = .error (.noDevice "storage") := by
  have hs : ∀ s ∈ storage, s.Known := by
    simp only [storage, List.forall_mem_cons]
    exact ⟨⟨by decide, by decide, by decide⟩, ⟨by decide, by decide, by decide⟩,
      ⟨by decide, by decide, by decide⟩, by simp⟩
  have htake : ∀ s ∈ storage.take 1, s.Known := fun s h => hs s (List.mem_of_mem_take h)
  constructor
  · obtain ⟨-, horder⟩ := (source_order hs).1 (by decide)
    obtain ⟨x, hx, -, htext⟩ := horder.sum rfl "power_w"
    exact ⟨x, hx, htext.trans rfl⟩
  · exact ((source_order htake).2 (by decide)).2.total "power_w"

end

end Combination

end EnergyQuery
