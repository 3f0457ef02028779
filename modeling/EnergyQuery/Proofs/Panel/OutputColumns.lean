/-
  The columns of every target of a panel have different names.

  * `Query.Shows.distinctColumns`: of every kind of query, if no family lists a
    device twice;
  * `Panel.distinct_output_columns`: of every target of an accepted inventory.
-/
import EnergyQuery.Proofs.Panel.Expansion
import EnergyQuery.Proofs.Query.OutputColumns

namespace EnergyQuery

open Sql

theorem Weather.distinctColumns_temperatures {ids : List ℕ} {labels : List String} {s : Statement}
    (hn : ids.Nodup) (h : temperatures ids labels = .ok s) : s.DistinctColumns := by
  unfold temperatures at h
  split at h
  · simp at h
  · next hcheck =>
    exact Family.distinctColumns_labelled (by decide) hn (nodup_channelLabel hcheck) h

theorem Combination.Uniform.nodup_also {c : Combination} {q : Quantity} (h : c.Uniform q) :
    ∀ s ∈ c.active, s.also.Nodup := by
  intro s hs
  rw [(h.quantity s (List.mem_filter.1 hs).1).2]
  exact List.nodup_nil

/-- Every kind of query has distinct columns if no family lists a device twice. -/
theorem Query.Shows.distinctColumns {p : Panel} {d : Devices} {ds : List (Family × ℕ)} {q : Query}
    (h : q.Shows p d ds) (hd : ∀ l ∈ d.lists, l.2.Nodup) {s : Statement}
    (hs : q.statement = .ok s) : s.DistinctColumns := by
  have hids {ids : List ℕ} : ids ∈ d.idLists → ids.Nodup := Devices.nodup_of_mem_idLists hd
  obtain ⟨-, hgenerator, hheatpump, -, -, -, hweather, -⟩ := d.mem_idLists
  cases h with
  | each _ hmem h =>
    obtain ⟨hf, hn, hq⟩ := h
    exact Family.distinctColumns_each hf (hids hmem) hn (fun q hmem => (hq q hmem).2) hs
  | total _ hmem h => exact Family.distinctColumns_total h.1 (hids hmem) hs
  | windowEach _ hmem h => exact Family.distinctColumns_windowEach h.1 (hids hmem) hs
  | windowTotal _ _ h => exact Family.distinctColumns_windowTotal h.1 hs
  | buckets _ _ h => exact Buckets.distinctColumns_total h.1 hs
  | combination _ hhouse huniform =>
    exact Combination.distinctColumns_total (hhouse hd).family_mem_all (hhouse hd).nodup_devices
      huniform.nodup_also hs
  | combinationWindow _ hhouse huniform =>
    exact Combination.distinctColumns_windowTotal (hhouse hd).family_mem_all huniform.nodup_also hs
  | heat => exact Heating.distinctColumns_heat (hids hheatpump) (hids hgenerator) hs
  | generatorHeat => exact Generator.distinctColumns_heat (hids hgenerator) hs
  | heatpumpAll => exact Heatpump.distinctColumns_all (hids hheatpump) hs
  | temperatures => exact Weather.distinctColumns_temperatures (hids hweather) hs

namespace Panel

/-- **The columns of every target have different names**: those that it outputs, those of its derived
    table, and those of each common table expression. -/
theorem distinct_output_columns (d : Devices) (hd : d.check = .ok ()) (p : Panel) :
    ∃ targets, p.targets d = .ok targets ∧ ∀ t ∈ targets, t.statement.DistinctColumns := by
  obtain ⟨targets, htargets, -⟩ := exists_targets_noMark p hd
  refine ⟨targets, htargets, fun t ht => ?_⟩
  obtain ⟨q, hq, hs⟩ := exists_query_of_mem_targets htargets ht
  obtain ⟨ds, h⟩ := exists_shows hq
  exact h.distinctColumns (Devices.nodup_of_check hd) hs

theorem distinct_output_columns_station :
    labelledStation.check = .ok () ∧
      ∃ t u v w, weather.targets labelledStation = .ok [t, u, v, w] ∧
        t.statement.columns =
          ["time", "weather3.temp_c", "weather3.North \"side\"", "weather3.$_5 'attic'",
            "weather7.temp_c", "weather7.North \"side\"", "weather7.$_5 'attic'"] ∧
        t.statement.DistinctColumns := by
  obtain ⟨targets, htargets, h⟩ := distinct_output_columns labelledStation rfl weather
  obtain ⟨t, u, v, w, hall, hcolumns⟩ : ∃ t u v w,
      weather.targets labelledStation = .ok [t, u, v, w] ∧ t.statement.columns = _ :=
    ⟨_, _, _, _, rfl, rfl⟩
  obtain rfl := Except.ok.inj (htargets.symm.trans hall)
  exact ⟨rfl, t, u, v, w, hall, hcolumns, h t List.mem_cons_self⟩

end Panel

end EnergyQuery
