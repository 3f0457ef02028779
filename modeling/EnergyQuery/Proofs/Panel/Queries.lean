/-
  What the queries of a panel show.

  Every query of a panel is one of a few kinds: a statement over the devices of
  one family, the sum of a combination, or one of four that are made for their
  panel.  What holds of each kind holds of every query.

  * `Panel.devices`: the devices of each query of a panel, family by family;
  * `Query.Shows p d ds q`: `q` is of a kind that the panel `p` may have, and draws
    on the devices `ds` of the inventory `d`;
  * `Panel.shows_queries`: so it is for every query of a panel;
  * `Panel.forall₂_targets`: the targets are the statements of the queries that
    are shown.
-/
import EnergyQuery.Panel.Target
import EnergyQuery.Proofs.Query.HouseSpelling
import EnergyQuery.Proofs.Query.Scans

namespace EnergyQuery

open Sql

/-! ## The devices of a query -/

/-- The devices that produce on site. -/
def Production.devices (d : Devices) : List (Family × ℕ) :=
  Family.solar.devices d.solars ++ Family.generator.devices d.generators

/-- The devices that deliver heat. -/
def Heating.devices (d : Devices) : List (Family × ℕ) :=
  Family.heatpump.devices d.heatpumps ++ Family.generator.devices d.generators

/-- The devices that enter the consumption of the household. -/
def Consumption.devices (d : Devices) : List (Family × ℕ) :=
  Family.meter.devices d.meters ++ Family.battery.devices d.batteries ++
    Family.generator.devices d.generators ++ Family.heatpump.devices d.heatpumps ++
      Family.solar.devices d.solars ++ Family.wallbox.devices d.wallboxes

namespace Panel

/-- The devices of the queries that add up buckets. -/
def bucketDevices (d : Devices) : List (List (Family × ℕ)) :=
  [Family.solar.devices d.solars, Family.generator.devices d.generators,
    Family.meter.devices d.meters, Family.wallbox.devices d.wallboxes,
    Family.heatpump.devices d.heatpumps]

/-- The devices of each query of a panel, in the order of the queries. -/
def devices (d : Devices) : Panel → List (List (Family × ℕ))
  | power =>
    [Production.devices d, Consumption.devices d, Family.heatpump.devices d.heatpumps,
      Family.wallbox.devices d.wallboxes, Family.battery.devices d.batteries,
      Family.bidirMeter.devices d.bidirMeters]
  | heat => [Heating.devices d, Family.boiler.devices d.boilers]
  | energy =>
    [Production.devices d, Heating.devices d, Family.meter.devices d.meters,
      Family.wallbox.devices d.wallboxes, Family.bidirMeter.devices d.bidirMeters,
      Family.bidirMeter.devices d.bidirMeters]
  | battery => List.replicate 3 (Family.battery.devices d.batteries)
  | boiler => [Family.boiler.devices d.boilers]
  | weather => List.replicate 4 (Family.weather.devices d.weathers)
  | solar => List.replicate 4 (Family.solar.devices d.solars)
  | generator => List.replicate 5 (Family.generator.devices d.generators)
  | heatpump => List.replicate 4 (Family.heatpump.devices d.heatpumps)
  | grid =>
    [Family.meter.devices d.meters, Family.meter.devices d.meters,
      Family.bidirMeter.devices d.bidirMeters]
  | wallbox => List.replicate 2 (Family.wallbox.devices d.wallboxes)
  | monthly => bucketDevices d
  | daily => bucketDevices d

/-- The buckets whose span bounds the scans of a panel; without them it is the window. -/
def buckets? : Panel → Option Buckets
  | monthly => some .monthly
  | daily => some .daily
  | _ => none

theorem buckets?_eq_some {p : Panel} {b : Buckets} (h : p.buckets? = some b) :
    b = .monthly ∨ b = .daily := by
  cases p <;> simp [buckets?, eq_comm] at h <;> simp [h]

end Panel

/-- The lists of devices, one for each family. -/
def Devices.idLists (d : Devices) : List (List ℕ) :=
  d.lists.map (·.2)

section
variable {d : Devices} {q : Quantity} {also : List Quantity}

theorem Devices.nodup_of_mem_idLists (hd : ∀ l ∈ d.lists, l.2.Nodup) {ids : List ℕ}
    (h : ids ∈ d.idLists) : ids.Nodup := by
  obtain ⟨l, hl, rfl⟩ := List.mem_map.1 h
  exact hd l hl

theorem Devices.mem_idLists (d : Devices) :
    d.solars ∈ d.idLists ∧ d.generators ∈ d.idLists ∧ d.heatpumps ∈ d.idLists ∧
      d.batteries ∈ d.idLists ∧ d.meters ∈ d.idLists ∧ d.wallboxes ∈ d.idLists ∧
        d.weathers ∈ d.idLists ∧ d.boilers ∈ d.idLists ∧ d.bidirMeters ∈ d.idLists := by
  simp [idLists, lists]

theorem Production.devices_combination :
    (Production.combination d.solars d.generators q).devices = Production.devices d := by
  simp [Combination.devices_eq_flatMap, Production.combination, Production.devices]

theorem Heating.devices_combination :
    (Heating.combination d.heatpumps d.generators q also).devices = Heating.devices d := by
  simp [Combination.devices_eq_flatMap, Heating.combination, Heating.devices]

theorem Consumption.devices_combination :
    (Consumption.combination d).devices = Consumption.devices d := by
  simp [Combination.devices_eq_flatMap, Consumption.combination, Consumption.devices]

end

/-! ## Kinds of queries -/

/-- A kind of query that the panel `p` may have, over the devices `ds` of the inventory `d`. -/
inductive Query.Shows (p : Panel) (d : Devices) : List (Family × ℕ) → Query → Prop
  /-- Columns of each device. -/
  | each {f : Family} {ids : List ℕ} {qs : List Quantity} : p.buckets? = none → ids ∈ d.idLists →
      (f ∈ Family.all ∧ qs.Nodup ∧ ∀ q ∈ qs, q.isWindowTotal = false ∧ f.Declares q) →
      Shows p d (f.devices ids) (.series ids (f.each · qs))
  /-- The sum of all devices. -/
  | total {f : Family} {ids : List ℕ} {q : Quantity} : p.buckets? = none → ids ∈ d.idLists →
      (f ∈ Family.all ∧ q.isWindowTotal = false ∧ f.Declares q) →
      Shows p d (f.devices ids) (.series ids (f.total · q))
  /-- The total of each device over the window. -/
  | windowEach {f : Family} {ids : List ℕ} {q : Quantity} : p.buckets? = none → ids ∈ d.idLists →
      (f ∈ Family.all ∧ q.isWindowTotal = true ∧ f.Declares q) →
      Shows p d (f.devices ids) (.table ids (f.windowEach · q))
  /-- The total of all devices over the window. -/
  | windowTotal {f : Family} {ids : List ℕ} {q : Quantity} : p.buckets? = none → ids ∈ d.idLists →
      (f ∈ Family.all ∧ q.isWindowTotal = true ∧ f.Declares q) →
      Shows p d (f.devices ids) (.table ids (f.windowTotal · q))
  /-- The totals of all devices per bucket. -/
  | buckets {b : Buckets} {f : Family} {ids : List ℕ} {q : Quantity} : p.buckets? = some b →
      ids ∈ d.idLists → (f ∈ Family.all ∧ q.isWindowTotal = true ∧ f.Declares q) →
      Shows p d (f.devices ids) (.series ids (b.total f · q))
  /-- The sum of a combination. -/
  | combination {c : Combination} {q : Quantity} {label : String} {present : Bool} :
      p.buckets? = none → ((∀ l ∈ d.lists, l.2.Nodup) → c.IsHouse) → c.Uniform q →
      (present = true ↔ c.active ≠ []) →
      q.isWindowTotal = false → IsWord c.name → IsWord label →
      Shows p d c.devices ⟨present, .timeSeries, c.total label⟩
  /-- The total of a combination over the window. -/
  | combinationWindow {c : Combination} {q : Quantity} {label : String} {present : Bool} :
      p.buckets? = none → ((∀ l ∈ d.lists, l.2.Nodup) → c.IsHouse) → c.Uniform q →
      (present = true ↔ c.active ≠ []) →
      q.isWindowTotal = true → IsWord c.name → IsWord label →
      Shows p d c.devices ⟨present, .table, c.windowTotal label⟩
  /-- Heat and coefficient of performance. -/
  | heat : p.buckets? = none → Shows p d (Heating.devices d)
      ⟨!d.heatpumps.isEmpty || !d.generators.isEmpty, .timeSeries,
        Heating.heat d.heatpumps d.generators⟩
  /-- Heat of generators. -/
  | generatorHeat : p.buckets? = none →
      Shows p d (Family.generator.devices d.generators) (.series d.generators Generator.heat)
  /-- Power, heat and coefficient of performance of heat pumps. -/
  | heatpumpAll : p.buckets? = none →
      Shows p d (Family.heatpump.devices d.heatpumps) (.series d.heatpumps Heatpump.all)
  /-- Labelled temperatures. -/
  | temperatures : p = .weather → Shows p d (Family.weather.devices d.weathers)
      (.series d.weathers (Weather.temperatures · d.weatherLabels))

/-! ## Combinations -/

section
variable {p : Panel} {d : Devices} {q : Quantity} {also : List Quantity}

theorem Production.isHouse_of_lists (hd : ∀ l ∈ d.lists, l.2.Nodup) :
    (Production.combination d.solars d.generators q).IsHouse := by
  obtain ⟨hsolar, hgenerator, -⟩ := d.mem_idLists
  exact Production.isHouse (Devices.nodup_of_mem_idLists hd hsolar)
    (Devices.nodup_of_mem_idLists hd hgenerator)

theorem Heating.isHouse_of_lists (hd : ∀ l ∈ d.lists, l.2.Nodup) :
    (Heating.combination d.heatpumps d.generators q also).IsHouse := by
  obtain ⟨-, hgenerator, hheatpump, -⟩ := d.mem_idLists
  exact Heating.isHouse (Devices.nodup_of_mem_idLists hd hheatpump)
    (Devices.nodup_of_mem_idLists hd hgenerator)

theorem Production.present_iff :
    (!d.solars.isEmpty || !d.generators.isEmpty) = true ↔
      (Production.combination d.solars d.generators q).active ≠ [] := by
  simp [Combination.active_ne_nil_iff, Production.combination]

theorem Heating.present_iff :
    (!d.heatpumps.isEmpty || !d.generators.isEmpty) = true ↔
      (Heating.combination d.heatpumps d.generators q also).active ≠ [] := by
  simp [Combination.active_ne_nil_iff, Heating.combination]

namespace Query.Shows

theorem productionPower (hp : p.buckets? = none) :
    Shows p d (Production.devices d) ⟨!d.solars.isEmpty || !d.generators.isEmpty, .timeSeries,
      Production.power d.solars d.generators⟩ := by
  rw [← Production.devices_combination (q := .power)]
  exact combination hp Production.isHouse_of_lists (Production.uniform (by decide))
    Production.present_iff rfl (by decide : IsWord "production") (by decide)

theorem productionEnergy (hp : p.buckets? = none) :
    Shows p d (Production.devices d) ⟨!d.solars.isEmpty || !d.generators.isEmpty, .table,
      Production.energy d.solars d.generators⟩ := by
  rw [← Production.devices_combination (q := .windowEnergy)]
  exact combinationWindow hp Production.isHouse_of_lists (Production.uniform (by decide))
    Production.present_iff rfl (by decide : IsWord "production") (by decide)

theorem heatingEnergy (hp : p.buckets? = none) :
    Shows p d (Heating.devices d) ⟨!d.heatpumps.isEmpty || !d.generators.isEmpty, .table,
      Heating.energy d.heatpumps d.generators⟩ := by
  rw [← Heating.devices_combination (q := .windowHeat)]
  exact combinationWindow hp Heating.isHouse_of_lists Heating.uniform Heating.present_iff rfl
    (by decide : IsWord "heating") (by decide)

theorem consumption (hp : p.buckets? = none) :
    Shows p d (Consumption.devices d) ⟨!(Consumption.combination d).isEmpty, .timeSeries,
      Consumption.power d⟩ := by
  rw [← Consumption.devices_combination]
  exact combination hp Consumption.isHouse Consumption.uniform (by simp [Combination.isEmpty]) rfl
    (by decide : IsWord "consumption") (by decide)

end Query.Shows

end

/-! ## Panels -/

namespace Panel
variable {p : Panel} {d : Devices}

theorem shows_bucketQueries {b : Buckets} (hb : p.buckets? = some b) :
    List.Forall₂ (Query.Shows p d) (bucketDevices d) (bucketQueries b d) := by
  obtain ⟨hsolar, hgenerator, hheatpump, -, hmeter, hwallbox, -⟩ := d.mem_idLists
  simp only [bucketDevices, bucketQueries, List.forall₂_cons]
  exact ⟨.buckets hb hsolar (by decide), .buckets hb hgenerator (by decide),
    .buckets hb hmeter (by decide), .buckets hb hwallbox (by decide),
    .buckets hb hheatpump (by decide), .nil⟩

/-- **What a panel shows**: each of its queries is of some kind, over its devices. -/
theorem shows_queries (p : Panel) (d : Devices) :
    List.Forall₂ (Query.Shows p d) (p.devices d) (p.queries d) := by
  obtain ⟨hsolar, hgenerator, hheatpump, hbattery, hmeter, hwallbox, hweather, hboiler, hbidir⟩ :=
    d.mem_idLists
  -- One case for each panel; the devices of a query are a list of the inventory, without repeats.
  cases p with
  | monthly => exact shows_bucketQueries rfl
  | daily => exact shows_bucketQueries rfl
  | power =>
    simp only [devices, queries, List.forall₂_cons]
    exact ⟨.productionPower rfl, .consumption rfl, .total rfl hheatpump (by decide),
      .total rfl hwallbox (by decide), .total rfl hbattery (by decide),
      .each rfl hbidir (by decide), .nil⟩
  | heat =>
    simp only [devices, queries, List.forall₂_cons]
    exact ⟨.heat rfl, .each rfl hboiler (by decide), .nil⟩
  | energy =>
    simp only [devices, queries, List.forall₂_cons]
    exact ⟨.productionEnergy rfl, .heatingEnergy rfl, .windowTotal rfl hmeter (by decide),
      .windowTotal rfl hwallbox (by decide), .windowTotal rfl hbidir (by decide),
      .windowTotal rfl hbidir (by decide), .nil⟩
  | battery =>
    simp only [devices, queries, List.replicate, List.forall₂_cons]
    exact ⟨.each rfl hbattery (by decide), .each rfl hbattery (by decide),
      .each rfl hbattery (by decide), .nil⟩
  | boiler =>
    simp only [devices, queries, List.forall₂_cons]
    exact ⟨.each rfl hboiler (by decide), .nil⟩
  | weather =>
    simp only [devices, queries, List.replicate, List.forall₂_cons]
    exact ⟨.temperatures rfl, .each rfl hweather (by decide), .each rfl hweather (by decide),
      .each rfl hweather (by decide), .nil⟩
  | solar =>
    simp only [devices, queries, List.replicate, List.forall₂_cons]
    exact ⟨.each rfl hsolar (by decide), .total rfl hsolar (by decide),
      .windowEach rfl hsolar (by decide), .windowTotal rfl hsolar (by decide), .nil⟩
  | generator =>
    simp only [devices, queries, List.replicate, List.forall₂_cons]
    exact ⟨.each rfl hgenerator (by decide), .total rfl hgenerator (by decide), .generatorHeat rfl,
      .windowTotal rfl hgenerator (by decide), .windowTotal rfl hgenerator (by decide), .nil⟩
  | heatpump =>
    simp only [devices, queries, List.replicate, List.forall₂_cons]
    exact ⟨.heatpumpAll rfl, .total rfl hheatpump (by decide),
      .windowTotal rfl hheatpump (by decide), .windowTotal rfl hheatpump (by decide), .nil⟩
  | grid =>
    simp only [devices, queries, List.forall₂_cons]
    exact ⟨.each rfl hmeter (by decide), .total rfl hmeter (by decide),
      .total rfl hbidir (by decide), .nil⟩
  | wallbox =>
    simp only [devices, queries, List.replicate, List.forall₂_cons]
    exact ⟨.each rfl hwallbox (by decide), .windowEach rfl hwallbox (by decide), .nil⟩

/-- What holds of every kind of query holds of the queries of a panel. -/
theorem exists_shows {q : Query} (hq : q ∈ p.queries d) : ∃ ds, q.Shows p d ds := by
  obtain ⟨ds, -, h⟩ := Fallible.exists_of_mem_forall₂ (shows_queries p d) hq
  exact ⟨ds, h⟩

/-- The targets of a panel are the statements of the queries that it shows. -/
theorem forall₂_targets {ts : List Target} (h : p.targets d = .ok ts) :
    List.Forall₂ (fun q t => q.statement = .ok t.statement)
      ((p.queries d).filter (·.present)) ts := by
  simp only [targets, Fallible.bind_eq_ok, Fallible.pure_eq_ok] at h
  obtain ⟨shown, hshown, rfl⟩ := h
  obtain ⟨hlength, hsteps⟩ := List.forall₂_iff_get.1 (Fallible.forall₂_of_mapM_eq_ok hshown)
  refine List.forall₂_iff_get.2 ⟨by rw [hlength, List.length_mapIdx], fun i hi hj => ?_⟩
  have hstep := hsteps i hi (hlength ▸ hi)
  simp only [Fallible.bind_eq_ok, Fallible.pure_eq_ok] at hstep
  obtain ⟨s, hs, hpair⟩ := hstep
  simp only [List.get_eq_getElem, List.getElem_mapIdx] at hs hpair ⊢
  rw [hs, ← hpair]

/-- A target comes from a query of the panel. -/
theorem exists_query_of_mem_targets {ts : List Target} (h : p.targets d = .ok ts) {t : Target}
    (ht : t ∈ ts) : ∃ q ∈ p.queries d, q.statement = .ok t.statement := by
  obtain ⟨q, hq, hstatement⟩ := Fallible.exists_of_mem_forall₂ (forall₂_targets h) ht
  exact ⟨q, (List.mem_filter.1 hq).1, hstatement⟩

/-- A query that the panel shows has a target. -/
theorem exists_target_of_mem_queries {ts : List Target} (h : p.targets d = .ok ts) {q : Query}
    (hq : q ∈ p.queries d) (hp : q.present = true) : ∃ t ∈ ts, q.statement = .ok t.statement :=
  Fallible.exists_of_mem_forall₂ (forall₂_targets h).flip (List.mem_filter.2 ⟨hq, hp⟩)

end Panel

end EnergyQuery
