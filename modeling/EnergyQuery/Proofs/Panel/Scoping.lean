/-
  The names in every statement of a panel stand for something.

  * `Query.WellScoped` says so of a query, if its statement can be composed;
  * `Query.Shows.wellScoped`, `Panel.wellScoped_queries`: of every kind of query,
    and so of every query of a panel, if no family lists a device twice;
  * `Panel.wellScoped_targets`: of every target of an accepted inventory.
-/
import EnergyQuery.Proofs.Device.Inventory
import EnergyQuery.Proofs.Panel.Queries
import EnergyQuery.Proofs.Query.Weather

namespace EnergyQuery

open Sql

/-! ## Weather stations -/

namespace Weather
variable {ids : List ℕ} {labels : List String} {s : Statement}

theorem wellScoped_temperatures (hn : ids.Nodup) (h : temperatures ids labels = .ok s) :
    WellScoped houseTables s := by
  unfold temperatures at h
  split at h
  · simp at h
  · next hcheck =>
    exact Family.wellScoped_labelled (by decide) hn (nodup_channelLabel hcheck) h

end Weather

/-! ## Panels -/

/-- If the statement of the query can be composed, it is well scoped. -/
def Query.WellScoped (q : Query) : Prop :=
  ∀ s, q.statement = .ok s → Sql.WellScoped houseTables s

/-- Every kind of query is well scoped if no family lists a device twice. -/
theorem Query.Shows.wellScoped {p : Panel} {d : Devices} {ds : List (Family × ℕ)} {q : Query}
    (h : q.Shows p d ds) (hd : ∀ l ∈ d.lists, l.2.Nodup) : q.WellScoped := by
  intro s hs
  have hids {ids : List ℕ} : ids ∈ d.idLists → ids.Nodup := Devices.nodup_of_mem_idLists hd
  obtain ⟨-, hgenerator, hheatpump, -, -, -, hweather, -⟩ := d.mem_idLists
  cases h with
  | each _ hmem h =>
    obtain ⟨hf, hn, hq⟩ := h
    exact Family.wellScoped_each hf (hids hmem) hn (fun q hmem => (hq q hmem).2) hs
  | total _ hmem h => exact Family.wellScoped_total h.1 (hids hmem) hs
  | windowEach _ hmem h => exact Family.wellScoped_windowEach h.1 (hids hmem) hs
  | windowTotal _ hmem h => exact Family.wellScoped_windowTotal h.1 (hids hmem) hs
  | buckets _ hmem h => exact Buckets.wellScoped_total h.1 (hids hmem) hs
  | combination _ hhouse =>
    exact Combination.wellScoped_total (hhouse hd).family_mem_all (hhouse hd).nodup_devices hs
  | combinationWindow _ hhouse =>
    exact Combination.wellScoped_windowTotal (hhouse hd).family_mem_all (hhouse hd).nodup_devices hs
  | heat => exact Heating.wellScoped_heat (hids hheatpump) (hids hgenerator) hs
  | generatorHeat => exact Generator.wellScoped_heat (hids hgenerator) hs
  | heatpumpAll => exact Heatpump.wellScoped_all (hids hheatpump) hs
  | temperatures => exact Weather.wellScoped_temperatures (hids hweather) hs

namespace Panel
variable {d : Devices}

theorem wellScoped_queries (p : Panel) (hd : ∀ p ∈ d.lists, p.2.Nodup) :
    ∀ q ∈ p.queries d, q.WellScoped := by
  intro q hq
  obtain ⟨ds, h⟩ := exists_shows hq
  exact h.wellScoped hd

/-- **Every target of an accepted inventory is well scoped.** -/
theorem wellScoped_targets (d : Devices) (hd : d.check = .ok ()) (p : Panel) (ts : List Target)
    (h : p.targets d = .ok ts) : ∀ t ∈ ts, WellScoped houseTables t.statement := by
  intro t ht
  obtain ⟨q, hq, hs⟩ := exists_query_of_mem_targets h ht
  exact wellScoped_queries p (Devices.nodup_of_check hd) q hq _ hs

/-- A house with two heat pumps and a generator. -/
def heatedHouse : Devices where
  heatpumps := [4, 5]
  generators := [2]
  boilers := [1]

theorem wellScoped_targets_heat :
    heatedHouse.check = .ok () ∧
      ∃ t u, heat.targets heatedHouse = .ok [t, u] ∧
        t.statement.ctes.map (·.name) = [some "heatpump4", some "heatpump5", some "generator2"] ∧
        WellScoped houseTables t.statement :=
  ⟨rfl, _, _, rfl, rfl, wellScoped_targets heatedHouse rfl heat _ rfl _ List.mem_cons_self⟩

end Panel

end EnergyQuery
