/-
  The names in the statements of a combination stand for something.

  Every device of a combination is staged with what its contribution needs, and
  the relations of all of them are joined to the first.

  * `Combination.wellScoped_total`, `Combination.wellScoped_windowTotal`: so it
    is for the two signed sums;
  * `Heating.wellScoped_heat`: and for the heat of a house, whose coefficient of
    performance reads a quantity that is staged beside the heat.
-/
import EnergyQuery.Proofs.Query.Combining
import EnergyQuery.Proofs.Query.Scoping

namespace EnergyQuery

open Sql

/-! ## Signed sums -/

namespace Combination
variable {c : Combination} {a label : String} {rs : List String} {fields : List Field}
  {s : Statement}

/-- The contributions are those of different families of a house, and list no device twice. -/
structure IsHouse (c : Combination) : Prop where
  families : ∀ f ∈ c.contributions.map (·.family), f ∈ Family.all
  distinct : (c.contributions.map (·.family)).Nodup
  ids : ∀ s ∈ c.contributions, s.ids.Nodup

theorem IsHouse.family_mem_all (h : c.IsHouse) : ∀ s ∈ c.active, s.family ∈ Family.all :=
  fun _ hs => h.families _ (List.mem_map_of_mem (List.mem_filter.1 hs).1)

theorem IsHouse.nodup_devices (h : c.IsHouse) : c.devices.Nodup := by
  have hdevices : c.devices = c.active.flatMap fun s => s.ids.map (s.family, ·) := by
    rw [flatMap_active, devices]
  rw [hdevices, List.nodup_flatMap]
  refine ⟨fun s hs => (h.ids s (List.mem_filter.1 hs).1).map fun i j h => (Prod.mk.inj h).2, ?_⟩
  have hpairwise : c.contributions.Pairwise fun s t => s.family ≠ t.family :=
    List.pairwise_map.1 h.distinct
  refine (hpairwise.filter _).imp fun {s t} hst => ?_
  intro d hs ht
  obtain ⟨i, -, rfl⟩ := List.mem_map.1 hs
  obtain ⟨j, -, hj⟩ := List.mem_map.1 ht
  exact hst (Prod.mk.inj hj).1.symm

theorem staging_aligned (hf : ∀ s ∈ c.active, s.family ∈ Family.all) (hn : c.devices.Nodup)
    (hd : ∀ s ∈ c.active, s.Declares) (hr : c.relations = a :: rs) :
    Staging houseTables (c.active.flatMap stagedOf) (a :: rs) := by
  have hrelations := nodup_relations hf hn
  rw [← hr, flatMap_stagedOf, relations_eq_map_members]
  rw [relations_eq_map_members] at hrelations
  exact staging_scans (fun p hp => hf p.1 (mem_active_of_mem_members hp))
    (fun p hp => hd p.1 (mem_active_of_mem_members hp)) hrelations

theorem offers_aligned {p : Contribution × ℕ} {q : Quantity} (hp : p ∈ c.members)
    (hq : q ∈ p.1.staged) :
    Offers (c.active.flatMap stagedOf) (p.1.family.relation p.2)
      (p.1.family.catalogEntry q).column := by
  rw [flatMap_stagedOf]
  exact offers_scans (F := fun p : Contribution × ℕ => p.1.family) (Q := fun p => p.1.staged)
    (I := fun p => p.2) hp hq

/-- The columns that a combination adds up are staged. -/
theorem offers_summands {q : Contribution → Quantity} (hq : ∀ s ∈ c.active, q s ∈ s.staged) :
    ∀ m ∈ c.summands q, m.expr.RefsIn (Offers (c.active.flatMap stagedOf)) := by
  intro m hm
  rw [summands_eq_map_members] at hm
  obtain ⟨p, hp, rfl⟩ := List.mem_map.1 hm
  exact offers_aligned hp (hq p.1 (mem_active_of_mem_members hp))

theorem mem_members {s : Contribution} {id : ℕ} (hs : s ∈ c.active) (hid : id ∈ s.ids) :
    (s, id) ∈ c.members :=
  List.mem_flatMap.2 ⟨s, hs, List.mem_map_of_mem hid⟩

/-- The signed sum reads staged columns. -/
theorem refsIn_sum (hr : c.relations = a :: rs)
    (hq : ∀ s ∈ c.active, s.quantity.isWindowTotal = false) :
    (Expr.signedSum ((c.summands (·.quantity)).map fun m => (m.sign, .orZero m.expr))).RefsIn
      (Offers (c.active.flatMap stagedOf)) := by
  refine Expr.refsIn_signedSum (by simpa using summands_ne_nil hr) fun t ht => ?_
  obtain ⟨m, hm, rfl⟩ := List.mem_map.1 ht
  exact offers_summands (fun s hs => Contribution.quantity_mem_staged (hq s hs)) m hm

theorem wellScoped_total (hf : ∀ s ∈ c.active, s.family ∈ Family.all) (hn : c.devices.Nodup)
    (h : c.total label = .ok s) : WellScoped houseTables s := by
  cases hsingle : c.single? with
  | some p =>
    obtain ⟨t, id⟩ := p
    obtain ⟨-, hd, rfl⟩ := (total_eq_ok_iff_of_single hsingle).1 h
    have ht : t.family ∈ Family.all := hf t (by simp [(single?_eq_some hsingle).1])
    exact Family.wellScoped_single_ordered ht hd
  | none =>
    obtain ⟨hq, a, rs, hr, rfl⟩ := (total_eq_ok_iff hsingle).1 h
    refine Alignment.wellScoped (staging_aligned hf hn (fun s hs => (hq s hs).2) hr) rfl ?_
      (by simp [Alignment.compute, aligned]) ?_
    · intro x hx
      obtain rfl := List.mem_singleton.1 hx
      exact refsIn_sum hr fun s hs => (hq s hs).1
    · intro x hx
      obtain rfl := List.mem_singleton.1 hx
      exact time_ne_label.symm

theorem wellScoped_windowTotal (hf : ∀ s ∈ c.active, s.family ∈ Family.all)
    (hn : c.devices.Nodup) (h : c.windowTotal label = .ok s) : WellScoped houseTables s := by
  cases hsingle : c.single? with
  | some p =>
    obtain ⟨t, id⟩ := p
    obtain ⟨-, hd, rfl⟩ := (windowTotal_eq_ok_iff_of_single hsingle).1 h
    have ht : t.family ∈ Family.all := hf t (by simp [(single?_eq_some hsingle).1])
    exact Family.wellScoped_single ht hd
  | none =>
    obtain ⟨hq, a, rs, hr, rfl⟩ := (windowTotal_eq_ok_iff hsingle).1 h
    refine wellScoped_joinedStatement (staging_aligned hf hn (fun s hs => (hq s hs).2) hr) ?_
    intro x hx
    obtain rfl := List.mem_singleton.1 hx
    refine Expr.refsIn_spanSum (by simpa using summands_ne_nil hr) fun t ht => ?_
    obtain ⟨m, hm, rfl⟩ := List.mem_map.1 ht
    exact offers_summands (fun s _ => Contribution.counter_mem_staged) m hm

end Combination

/-! ## The combinations of a house -/

section
variable {solars generators heatpumps : List ℕ} {d : Devices} {q : Quantity}
  {also : List Quantity}

theorem Production.isHouse (hs : solars.Nodup) (hg : generators.Nodup) :
    (Production.combination solars generators q).IsHouse where
  families := (by decide : ∀ f ∈ [Family.solar, .generator], f ∈ Family.all)
  distinct := (by decide : [Family.solar, .generator].Nodup)
  ids := by simp [Production.combination, hs, hg]

theorem Heating.isHouse (hh : heatpumps.Nodup) (hg : generators.Nodup) :
    (Heating.combination heatpumps generators q also).IsHouse where
  families := (by decide : ∀ f ∈ [Family.heatpump, .generator], f ∈ Family.all)
  distinct := (by decide : [Family.heatpump, .generator].Nodup)
  ids := by simp [Heating.combination, hh, hg]

theorem Consumption.isHouse (h : ∀ p ∈ d.lists, p.2.Nodup) :
    (Consumption.combination d).IsHouse where
  families := (by decide : ∀ f ∈ [Family.meter, .battery, .generator, .heatpump, .solar, .wallbox],
    f ∈ Family.all)
  distinct := (by decide :
    [Family.meter, .battery, .generator, .heatpump, .solar, .wallbox].Nodup)
  ids := by
    simp only [Devices.lists, List.forall_mem_cons] at h
    obtain ⟨hs, hg, hh, hb, hm, hw, -⟩ := h
    simp [Consumption.combination, hs, hg, hh, hb, hm, hw]

end

namespace Heating
variable {heatpumps generators : List ℕ} {s : Statement}

/-- Heat and coefficient of performance over the joined relations. -/
theorem wellScoped_aligned (hh : heatpumps.Nodup) (hg : generators.Nodup) (hne : heatpumps ≠ [])
    (hlen : 2 ≤ (combination heatpumps generators .heat [.cop]).relations.length)
    (h : (do
      let a ← (combination heatpumps generators .heat [.cop]).alignment
      return (a.compute [← (combination heatpumps generators .heat [.cop]).sumField "heat_w",
        ← Heatpump.copField heatpumps]).statement : Composed Statement) = .ok s) :
    WellScoped houseTables s := by
  have hsingle := Combination.single?_eq_none hlen
  simp only [Fallible.bind_eq_ok, Fallible.pure_eq_ok, Combination.alignment_eq_ok_iff,
    Combination.sumField_eq_ok_iff hsingle, Heatpump.copField, Family.average_eq_ok_iff] at h
  obtain ⟨_, ⟨hd, a, rs, hr, rfl⟩, _, ⟨-, rfl⟩, _, ⟨_, ⟨-, -, rfl⟩, rfl⟩, rfl⟩ := h
  have hinstant : ∀ s ∈ (combination heatpumps generators .heat [.cop]).active,
      s.quantity.isWindowTotal = false := by
    intro s hs
    obtain rfl | rfl := by simpa [combination] using (List.mem_filter.1 hs).1
    all_goals rfl
  refine Alignment.wellScoped
    (Combination.staging_aligned (isHouse hh hg).family_mem_all (isHouse hh hg).nodup_devices
      hd hr) rfl ?_ ?_ ?_
  · intro x hx
    obtain rfl | rfl := by simpa [Alignment.compute, Combination.aligned] using hx
    · exact Combination.refsIn_sum hr hinstant
    · have hactive : ⟨.heatpump, heatpumps, .plus, .heat, [.cop]⟩ ∈
          (combination heatpumps generators .heat [.cop]).active :=
        List.mem_filter.2 ⟨by simp [combination], by simpa using hne⟩
      refine Family.refsIn_averageOf hne (fun k hk => ?_) trivial
      exact Combination.offers_aligned (Combination.mem_members hactive hk)
        (by simp [Contribution.staged, Quantity.staged, Quantity.counter])
  · simp [Alignment.compute, Combination.aligned, Combination.columnName, Family.familyName,
      combination, Family.heatpump, Name.identifier]
  · intro x hx
    obtain rfl | rfl := by simpa [Alignment.compute, Combination.aligned] using hx
    all_goals exact time_ne_label.symm

theorem wellScoped_heat (hh : heatpumps.Nodup) (hg : generators.Nodup)
    (h : heat heatpumps generators = .ok s) : WellScoped houseTables s := by
  match heatpumps, generators with
  | [], generators =>
    exact Combination.wellScoped_total (isHouse hh hg).family_mem_all
      (isHouse hh hg).nodup_devices h
  | [id], [] =>
    simp only [heat, Fallible.bind_eq_ok, Fallible.pure_eq_ok, Family.field_eq_ok_iff] at h
    obtain ⟨_, ⟨hheat, rfl⟩, _, ⟨hcop, rfl⟩, rfl⟩ := h
    refine (Family.isScan_ordered (by decide) fun x hx => ?_).wellScoped
    obtain rfl | rfl | rfl := by simpa using hx
    · trivial
    · exact Family.refsIn_catalogEntry (by decide) hheat
    · exact Family.refsIn_catalogEntry (by decide) hcop
  | [id], i :: generators =>
    refine wellScoped_aligned hh hg (by simp) ?_ h
    simp [combination, Combination.relations, Combination.active, Contribution.relations]
  | i :: j :: heatpumps, generators =>
    refine wellScoped_aligned hh hg (by simp) ?_ h
    simp [combination, Combination.relations, Combination.active, Contribution.relations]

end Heating

end EnergyQuery
