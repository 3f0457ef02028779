/-
  Every device that a target draws on is scanned once, and only in the window.

  * `Query.Draws`: the query is shown if it has a device, and its scans are then
    those of its devices;
  * `Query.Shows.draws`, `Panel.draws_queries`: so it is for every kind of query,
    and for every query of a panel;
  * `Panel.draws_targets`: and for every target of an accepted inventory.
-/
import EnergyQuery.Proofs.Panel.Totality
import EnergyQuery.Proofs.Query.Scans

namespace EnergyQuery

open Sql

/-! ## Queries -/

/-- The query is shown if it has a device, none of its devices is listed twice, and its statement
    draws on them. -/
structure Query.Draws (b : Option Buckets) (ds : List (Family × ℕ)) (q : Query) : Prop where
  present : q.present = true ↔ ds ≠ []
  nodup : ds.Nodup
  statement : ∀ s, q.statement = .ok s → EnergyQuery.Draws b ds s

namespace Query
variable {b : Option Buckets} {f : Family} {ids : List ℕ} {format : Format} {present : Bool}
  {x : Composed Statement}

/-- A query over the devices of one family. -/
theorem draws_family (hn : ids.Nodup) (h : ∀ s, x = .ok s → EnergyQuery.Draws b (f.devices ids) s) :
    Query.Draws b (f.devices ids) ⟨!ids.isEmpty, format, x⟩ where
  present := by simp [Family.devices]
  nodup := Family.nodup_devices hn
  statement := h

/-- A query over the devices of a combination. -/
theorem draws_combination {c : Combination} (hc : c.IsHouse)
    (hpresent : present = true ↔ c.active ≠ [])
    (h : ∀ s, x = .ok s → EnergyQuery.Draws none c.devices s) :
    Query.Draws none c.devices ⟨present, format, x⟩ where
  present := by rw [hpresent, Combination.devices_ne_nil_iff]
  nodup := hc.nodup_devices
  statement := h

theorem draws_heat {d : Devices} (hd : ∀ l ∈ d.lists, l.2.Nodup) :
    Query.Draws none (Heating.devices d) ⟨!d.heatpumps.isEmpty || !d.generators.isEmpty,
      .timeSeries, Heating.heat d.heatpumps d.generators⟩ := by
  have hdevices : (Heating.combination d.heatpumps d.generators .heat [.cop]).devices =
      Heating.devices d := Heating.devices_combination
  rw [← hdevices]
  exact draws_combination (Heating.isHouse_of_lists hd) Heating.present_iff
    fun _ => Heating.draws_heat

/-- **Every kind of query draws on its devices** if no family lists a device twice. -/
theorem Shows.draws {p : Panel} {d : Devices} {ds : List (Family × ℕ)} {q : Query}
    (h : q.Shows p d ds) (hd : ∀ l ∈ d.lists, l.2.Nodup) : q.Draws p.buckets? ds := by
  have hids {ids : List ℕ} : ids ∈ d.idLists → ids.Nodup := Devices.nodup_of_mem_idLists hd
  obtain ⟨-, hgenerator, hheatpump, -, -, -, hweather, -⟩ := d.mem_idLists
  cases h with
  | each hb hmem h => exact hb ▸ draws_family (hids hmem) fun _ => Family.draws_labelled h.1
  | total hb hmem h => exact hb ▸ draws_family (hids hmem) fun _ => Family.draws_total h.1
  | windowEach hb hmem h => exact hb ▸ draws_family (hids hmem) fun _ => Family.draws_windowEach h.1
  | windowTotal hb hmem h =>
    exact hb ▸ draws_family (hids hmem) fun _ => Family.draws_windowTotal h.1
  | buckets hb hmem h => exact hb ▸ draws_family (hids hmem) fun _ => Buckets.draws_total h.1
  | combination hb hhouse _ hpresent =>
    exact hb ▸ draws_combination (hhouse hd) hpresent
      fun _ => Combination.draws_total (hhouse hd).family_mem_all
  | combinationWindow hb hhouse _ hpresent =>
    exact hb ▸ draws_combination (hhouse hd) hpresent
      fun _ => Combination.draws_windowTotal (hhouse hd).family_mem_all
  | heat hb => exact hb ▸ draws_heat hd
  | generatorHeat hb => exact hb ▸ draws_family (hids hgenerator) fun _ => Generator.draws_heat
  | heatpumpAll hb => exact hb ▸ draws_family (hids hheatpump) fun _ => Heatpump.draws_all
  | temperatures hp =>
    subst hp
    exact draws_family (hids hweather) fun _ => Weather.draws_temperatures

end Query

namespace Panel
variable {d : Devices}

/-- **Every query of a panel draws on its devices.** -/
theorem draws_queries (p : Panel) (hd : ∀ p ∈ d.lists, p.2.Nodup) :
    List.Forall₂ (Query.Draws p.buckets?) (p.devices d) (p.queries d) :=
  (shows_queries p d).imp fun _ _ h => h.draws hd

theorem forall₂_draws {b : Option Buckets} {dss : List (List (Family × ℕ))} {qs : List Query}
    {ts : List Target} (hqs : List.Forall₂ (Query.Draws b) dss qs)
    (hts : List.Forall₂ (fun q t => q.statement = .ok t.statement) qs ts) :
    List.Forall₂ (fun ds t => ds.Nodup ∧ Draws b ds t.statement) dss ts := by
  induction hqs generalizing ts with
  | nil =>
    cases hts
    exact .nil
  | cons hq _ ih =>
    cases hts with
    | cons ht hts => exact .cons ⟨hq.nodup, hq.statement _ ht⟩ (ih hts)

/-- **Every device is scanned once per target, and only in the window.**  A panel of an accepted
    inventory has a target for each of its queries that has a device.  The scans of the target are
    those of its devices, in their order, and no device is there twice. -/
theorem draws_targets (d : Devices) (hd : d.check = .ok ()) (p : Panel) :
    ∃ ts, p.targets d = .ok ts ∧
      List.Forall₂ (fun ds t => ds.Nodup ∧ Draws p.buckets? ds t.statement)
        ((p.devices d).filter (· ≠ [])) ts := by
  have hlabels := Devices.labels_of_check hd
  obtain ⟨ts, hts, -, -⟩ := exists_targets (composable_of_labels (p := p) (d := d) (by simp [hlabels]))
  have hshown : List.Forall₂ (Query.Draws p.buckets?) ((p.devices d).filter (· ≠ []))
      ((p.queries d).filter (·.present)) :=
    List.rel_filter (fun ds q hq => by simpa using hq.present.symm)
      (draws_queries p (Devices.nodup_of_check hd))
  exact ⟨ts, hts, forall₂_draws hshown (forall₂_targets hts)⟩

theorem draws_targets_heatedHouse :
    heatedHouse.check = .ok () ∧
      ∃ t u, heat.targets heatedHouse = .ok [t, u] ∧
        Draws none [(.heatpump, 4), (.heatpump, 5), (.generator, 2)] t.statement ∧
        Draws none [(.boiler, 1)] u.statement := by
  obtain ⟨ts, hts, hdraws⟩ := draws_targets heatedHouse rfl heat
  have hdevices : (heat.devices heatedHouse).filter (· ≠ []) =
      [[(.heatpump, 4), (.heatpump, 5), (.generator, 2)], [(.boiler, 1)]] := by decide
  rw [hdevices] at hdraws
  obtain ⟨t, _, ⟨-, ht⟩, hrest, rfl⟩ := List.forall₂_cons_left_iff.1 hdraws
  obtain ⟨u, _, ⟨-, hu⟩, hnil, rfl⟩ := List.forall₂_cons_left_iff.1 hrest
  obtain rfl := List.forall₂_nil_left_iff.1 hnil
  exact ⟨rfl, t, u, hts, ht, hu⟩

end Panel

end EnergyQuery
