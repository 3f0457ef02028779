/-
  When a panel fails.

  A panel shows a query only if it has a device for it, and every query that is
  shown can be composed and written.  The one exception are the labels of a
  weather station, which the panel of the weather checks.

  * `Query.Shows.composable`, `Panel.composable_queries`: every kind of query can be
    composed, and so can the queries of a panel;
  * `Panel.drawsOn`, `Panel.exists_present_iff`: a panel shows a query if one of
    the families that it draws on has a device;
  * `Panel.targets_eq_error_iff`, `renderPanel_eq_error_iff`: when the targets of
    a panel fail, and when an accepted panel is not printed;
  * `panels_total`: both, and that every target is written.
-/
import EnergyQuery.Cli.Run
import EnergyQuery.Proofs.Panel.Scoping

namespace EnergyQuery

open Sql

section
variable {N L : String → Prop}

/-! ## Queries -/

namespace Query

/-- If the query is shown, its statement can be composed, and is spelled. -/
def Composable (N L : String → Prop) (q : Query) : Prop :=
  q.present = true → Composes N L q.statement

variable {ids : List ℕ} {g : List ℕ → Composed Statement}

theorem composable_series (h : ids ≠ [] → Composes N L (g ids)) :
    (series ids g).Composable N L :=
  fun hp => h (by simpa [series] using hp)

theorem composable_table (h : ids ≠ [] → Composes N L (g ids)) :
    (table ids g).Composable N L :=
  fun hp => h (by simpa [table] using hp)

/-- The temperatures of the weather need labels that are accepted, and names that are admitted. -/
theorem composable_temperatures {d : Devices} (hN : Admits N L)
    (hlabels : d.weathers ≠ [] → Labels.check d.weatherLabels = .ok () ∧
      ∀ id ∈ d.weathers, ∀ l ∈ Labels.shown d.weatherLabels,
        N (Family.weather.relation id ++ "." ++ l)) :
    (series d.weathers (Weather.temperatures · d.weatherLabels)).Composable N L := by
  refine composable_series fun hids => ?_
  obtain ⟨hcheck, hn⟩ := hlabels hids
  have htemperature (id : ℕ) : N (Family.weather.relation id ++ "." ++ "temp_c") :=
    hN.name (Family.isWord_relation (by decide)) (by decide)
  exact Weather.composes_temperatures hids hcheck fun id hid =>
    List.forall_mem_cons.2 ⟨htemperature id, hn id hid⟩

/-- Every kind of query can be composed, but for the labels of the weather. -/
theorem Shows.composable {p : Panel} {d : Devices} {ds : List (Family × ℕ)} {q : Query}
    (h : q.Shows p d ds) (hN : Admits N L)
    (hlabels : p = .weather → d.weathers ≠ [] → Labels.check d.weatherLabels = .ok () ∧
      ∀ id ∈ d.weathers, ∀ l ∈ Labels.shown d.weatherLabels,
        N (Family.weather.relation id ++ "." ++ l)) : q.Composable N L := by
  cases h with
  | each _ _ h => exact composable_series fun hids => Family.composes_each hN h.1 hids h.2.2
  | total _ _ h => exact composable_series fun hids => Family.composes_total hN h.1 hids h.2.1 h.2.2
  | windowEach _ _ h =>
    exact composable_table fun hids => Family.composes_windowEach hN h.1 hids h.2.1 h.2.2
  | windowTotal _ _ h =>
    exact composable_table fun hids => Family.composes_windowTotal hN h.1 hids h.2.1 h.2.2
  | buckets hb _ h =>
    obtain rfl | rfl := Panel.buckets?_eq_some hb
    · exact composable_series fun hids =>
        Buckets.composes_total hN (Buckets.spelled_monthly hN) rfl h.1 hids h.2.1 h.2.2
    · exact composable_series fun hids =>
        Buckets.composes_total hN (Buckets.spelled_daily hN) rfl h.1 hids h.2.1 h.2.2
  | combination _ _ huniform hpresent hw hname hlabel =>
    exact fun hp => huniform.composes_total hN hname hlabel (hpresent.1 hp) hw
  | combinationWindow _ _ huniform hpresent hw hname hlabel =>
    exact fun hp => huniform.composes_windowTotal hN hname hlabel (hpresent.1 hp) hw
  | heat => exact fun hp => Heating.composes_heat hN (by simpa using hp)
  | generatorHeat => exact composable_series (Generator.composes_heat hN)
  | heatpumpAll => exact composable_series (Heatpump.composes_all hN)
  | temperatures hp => exact composable_temperatures hN (hlabels hp)

end Query

/-! ## Panels -/

namespace Panel
variable {d : Devices}

/-- **Every query that a panel shows can be composed**, but for the labels of the weather. -/
theorem composable_queries (p : Panel) (hN : Admits N L)
    (hlabels : p = weather → d.weathers ≠ [] → Labels.check d.weatherLabels = .ok () ∧
      ∀ id ∈ d.weathers, ∀ l ∈ Labels.shown d.weatherLabels,
        N (Family.weather.relation id ++ "." ++ l)) :
    ∀ q ∈ p.queries d, q.Composable N L := by
  intro q hq
  obtain ⟨ds, h⟩ := exists_shows hq
  exact h.composable hN hlabels

/-! ## The families that a panel draws on -/

/-- The devices of every family that a panel draws on. -/
def drawsOn (d : Devices) : Panel → List (List ℕ)
  | power =>
    [d.solars, d.generators, d.meters, d.batteries, d.heatpumps, d.wallboxes, d.bidirMeters]
  | heat => [d.heatpumps, d.generators, d.boilers]
  | energy => [d.solars, d.generators, d.heatpumps, d.meters, d.wallboxes, d.bidirMeters]
  | battery => [d.batteries]
  | boiler => [d.boilers]
  | weather => [d.weathers]
  | solar => [d.solars]
  | generator => [d.generators]
  | heatpump => [d.heatpumps]
  | grid => [d.meters, d.bidirMeters]
  | wallbox => [d.wallboxes]
  | monthly => [d.solars, d.generators, d.meters, d.wallboxes, d.heatpumps]
  | daily => [d.solars, d.generators, d.meters, d.wallboxes, d.heatpumps]

/-- **A panel shows a query** if a family that it draws on has a device. -/
theorem exists_present_iff (p : Panel) :
    (∃ q ∈ p.queries d, q.present = true) ↔ ∃ ids ∈ p.drawsOn d, ids ≠ [] := by
  have hconsumption : (!(Consumption.combination d).isEmpty) = true ↔ d.meters ≠ [] ∨
      d.batteries ≠ [] ∨ d.generators ≠ [] ∨ d.heatpumps ≠ [] ∨ d.solars ≠ [] ∨
        d.wallboxes ≠ [] := by
    have hactive := Combination.active_ne_nil_iff (c := Consumption.combination d)
    simpa [Combination.isEmpty, Consumption.combination] using hactive
  cases p <;>
    simp only [queries, bucketQueries, drawsOn, Query.series, Query.table, List.mem_cons,
      List.not_mem_nil, or_false, exists_eq_or_imp, exists_eq_left, hconsumption, Bool.or_eq_true,
      Bool.not_eq_true', List.isEmpty_eq_false_iff, ne_eq, or_self]
  all_goals grind

/-! ## Targets -/

/-- If the queries of a panel can be composed, it has targets, whose statements are spelled. -/
theorem exists_targets {p : Panel} (h : ∀ q ∈ p.queries d, q.Composable N L) :
    ∃ ts, p.targets d = .ok ts ∧ (∀ t ∈ ts, t.statement.Spelled N L) ∧
      (ts = [] ↔ ∀ ids ∈ p.drawsOn d, ids = []) := by
  have hstep : ∀ q ∈ (p.queries d).filter (·.present),
      ∃ y, (do return (← q.statement, q.format) : Composed (Statement × Format)) = .ok y := by
    intro q hq
    obtain ⟨s, hs, -⟩ := h q (List.mem_filter.1 hq).1 (List.mem_filter.1 hq).2
    exact ⟨(s, q.format), by rw [hs]; rfl⟩
  obtain ⟨shown, hshown, hrel⟩ := Fallible.exists_mapM hstep
  have htargets : p.targets d = .ok (shown.mapIdx fun i y => ⟨RefId.ofIndex i, y.1, y.2⟩) :=
    Fallible.bind_eq_ok.2 ⟨shown, hshown, rfl⟩
  refine ⟨_, htargets, fun t ht => ?_, ?_⟩
  · obtain ⟨q, hq, hstatement⟩ := Fallible.exists_of_mem_forall₂ (forall₂_targets htargets) ht
    obtain ⟨s, hs, hspelled⟩ := h q (List.mem_filter.1 hq).1 (List.mem_filter.1 hq).2
    rwa [← Except.ok.inj (hs.symm.trans hstatement)]
  · have hnone : shown = [] ↔ ¬∃ q ∈ p.queries d, q.present = true := by
      rw [← List.length_eq_zero_iff, ← hrel.length_eq, List.length_eq_zero_iff,
        List.filter_eq_nil_iff]
      simp
    rw [List.mapIdx_eq_nil_iff, hnone, exists_present_iff]
    simp

/-- The labels of a weather station are checked first. -/
theorem targets_weather_eq_error {f : LabelFault} (hids : d.weathers ≠ [])
    (h : Labels.check d.weatherLabels = .error f) : weather.targets d = .error (.labels f) := by
  have hfirst : Weather.temperatures d.weathers d.weatherLabels = .error (.labels f) :=
    Weather.temperatures_eq_error h
  simp [targets, queries, Query.series, hids, hfirst, List.mapM_cons, bind, Except.bind]

/-- Targets fail, or every query that the panel shows can be composed. -/
theorem composable_of_labels {p : Panel}
    (h : ¬∃ f, p = weather ∧ d.weathers ≠ [] ∧ Labels.check d.weatherLabels = .error f) :
    ∀ q ∈ p.queries d, q.Composable (fun _ => True) fun _ => True := by
  refine composable_queries p admits_all fun hp hids => ⟨?_, fun _ _ _ _ => trivial⟩
  cases hcheck : Labels.check d.weatherLabels with
  | ok u => rfl
  | error f => exact absurd ⟨f, hp, hids, hcheck⟩ h

/-- **When the targets of a panel cannot be composed.** -/
theorem targets_eq_error_iff {p : Panel} {x : Fault} :
    p.targets d = .error x ↔ p = weather ∧ d.weathers ≠ [] ∧
      ∃ f, Labels.check d.weatherLabels = .error f ∧ x = .labels f := by
  constructor
  · intro hx
    by_cases h : ∃ f, p = weather ∧ d.weathers ≠ [] ∧ Labels.check d.weatherLabels = .error f
    · obtain ⟨f, rfl, hids, hcheck⟩ := h
      rw [targets_weather_eq_error hids hcheck] at hx
      exact ⟨rfl, hids, f, hcheck, (Except.error.inj hx).symm⟩
    · obtain ⟨ts, hts, -, -⟩ := exists_targets (composable_of_labels h)
      simp [hts] at hx
  · rintro ⟨rfl, hids, f, hcheck, rfl⟩
    exact targets_weather_eq_error hids hcheck

end Panel

theorem Target.exists_sql {t : Target} (h : t.statement.Spelled N L) (range : Option TimeRange) :
    ∃ text, t.sql range = .ok text := by
  obtain ⟨text, htext⟩ := h.exists_render
  cases range with
  | none => exact ⟨text, by rw [sql, htext]; rfl⟩
  | some r => exact ⟨Placeholder.expand r text, by rw [sql, htext]; rfl⟩

theorem Target.exists_raw {ts : List Target} (h : ∀ t ∈ ts, t.statement.Spelled N L)
    (range : Option TimeRange) : ∃ raw, ts.mapM (Target.raw range) = .ok raw := by
  obtain ⟨raw, hraw, -⟩ := Fallible.exists_mapM (f := Target.raw range) fun t ht => by
    obtain ⟨text, htext⟩ := exists_sql (h t ht) range
    exact ⟨⟨t.refId, text, t.format⟩, by rw [Target.raw, htext]; rfl⟩
  exact ⟨raw, hraw⟩

/-! ## Printing a panel -/

section
variable {s : Settings} {env : Environment} {expand : Bool}

/-- For accepted settings there is no range to expand with only if none is configured. -/
theorem expansion_eq (expand : Bool) (h : s.check env = .ok ()) :
    (expand = true ∧ s.timeRange = none ∧ expansion s env expand = .error (.expand .noRange)) ∨
      ¬(expand = true ∧ s.timeRange = none) ∧ ∃ range, expansion s env expand = .ok range := by
  cases expand with
  | false => exact .inr ⟨by simp, none, rfl⟩
  | true =>
    obtain ⟨_, -, h⟩ := Fallible.bind_eq_ok.1 h
    unfold expansion Settings.range
    cases hr : s.timeRange with
    | none => exact .inl ⟨rfl, rfl, rfl⟩
    | some r =>
      rw [hr] at h
      obtain ⟨range, hresolve, -⟩ := Fallible.bind_eq_ok.1 h
      refine .inr ⟨by simp, some range, ?_⟩
      simp [hresolve, Except.mapError]

theorem Settings.devices_of_check (h : s.check env = .ok ()) : s.devices.check = .ok () := by
  obtain ⟨_, hd, -⟩ := Fallible.bind_eq_ok.1 h
  exact Fallible.mapError_eq_ok.1 hd

/-- **When an accepted panel is not printed.** -/
theorem renderPanel_eq_error_iff (p : Panel) (h : s.check env = .ok ()) (form : OutputForm)
    {e : RenderFault} :
    renderPanel p s env form expand = .error e ↔
      (expand = true ∧ s.timeRange = none ∧ e = .expand .noRange) ∨
        (¬(expand = true ∧ s.timeRange = none) ∧ (∀ ids ∈ p.drawsOn s.devices, ids = []) ∧
          e = .noTargets p) := by
  have hlabels := Devices.labels_of_check (Settings.devices_of_check h)
  obtain ⟨ts, hts, hspelled, hempty⟩ := Panel.exists_targets (p := p)
    (Panel.composable_of_labels (d := s.devices) (by simp [hlabels]))
  rcases expansion_eq expand h with ⟨hx, hr, heq⟩ | ⟨hn, range, heq⟩
  · rw [renderPanel, heq]
    simp [hx, hr, bind, Except.bind, eq_comm]
  · have hrange : ¬(expand = true ∧ s.timeRange = none ∧ e = .expand .noRange) :=
      fun h => hn ⟨h.1, h.2.1⟩
    rw [or_iff_right hrange, and_iff_right hn, renderPanel, heq, hts, ← hempty]
    cases ts with
    | nil => simp [Except.mapError, bind, Except.bind, eq_comm]
    | cons t ts =>
      obtain ⟨raw, hraw⟩ := Target.exists_raw hspelled range
      simp [hraw, Except.mapError, bind, Except.bind, pure, Except.pure]

end

end

/-- **Panels are total on accepted input.**  The targets of a panel fail only over the labels of the
    weather, and a target is always written.  For accepted settings a panel is printed unless it is to
    be expanded without a time range, or has no device. -/
theorem panels_total (p : Panel) :
    (∀ d x, p.targets d = .error x ↔ p = .weather ∧ d.weathers ≠ [] ∧
      ∃ f, Labels.check d.weatherLabels = .error f ∧ x = .labels f) ∧
    (∀ d ts, p.targets d = .ok ts → ∀ t ∈ ts, ∀ range, ∃ text, t.sql range = .ok text) ∧
    ∀ s env, s.check env = .ok () → ∀ form expand e,
      renderPanel p s env form expand = .error e ↔
        (expand = true ∧ s.timeRange = none ∧ e = .expand .noRange) ∨
          (¬(expand = true ∧ s.timeRange = none) ∧ (∀ ids ∈ p.drawsOn s.devices, ids = []) ∧
            e = .noTargets p) := by
  refine ⟨fun d x => Panel.targets_eq_error_iff, fun d ts hts t ht range => ?_,
    fun s env h form expand e => renderPanel_eq_error_iff p h form⟩
  have hlabels : ¬∃ f, p = .weather ∧ d.weathers ≠ [] ∧ Labels.check d.weatherLabels = .error f := by
    rintro ⟨f, hp, hids, hcheck⟩
    have herror := Panel.targets_eq_error_iff.2 ⟨hp, hids, f, hcheck, rfl⟩
    simp [herror] at hts
  obtain ⟨us, hus, hspelled, -⟩ := Panel.exists_targets (Panel.composable_of_labels hlabels)
  obtain rfl : us = ts := Except.ok.inj (hus.symm.trans hts)
  exact Target.exists_sql (hspelled t ht) range

theorem panels_total_heatedHouse :
    Panel.weather.targets { weathers := [3], weatherLabels := ["Attic", " temp_c"] } =
        .error (.labels (.reserved "temp_c")) ∧
      Settings.check { devices := Panel.heatedHouse } ⟨[]⟩ = .ok () ∧
      renderPanel .heat { devices := Panel.heatedHouse } ⟨[]⟩ .json true =
        .error (.expand .noRange) ∧
      renderPanel .solar { devices := Panel.heatedHouse } ⟨[]⟩ .json false =
        .error (.noTargets .solar) ∧
      ∀ e, renderPanel .heat { devices := Panel.heatedHouse } ⟨[]⟩ .json false ≠ .error e := by
  have hcheck : Settings.check { devices := Panel.heatedHouse } ⟨[]⟩ = .ok () := rfl
  refine ⟨((panels_total .weather).1 _ _).2 ⟨rfl, by decide, _, rfl, rfl⟩, hcheck,
    ((panels_total .heat).2.2 _ _ hcheck _ _ _).2 (.inl ⟨rfl, rfl, rfl⟩),
    ((panels_total .solar).2.2 _ _ hcheck _ _ _).2 (.inr ⟨by decide, by decide, rfl⟩),
    fun e he => ?_⟩
  obtain ⟨h, -⟩ | ⟨-, h, -⟩ := ((panels_total .heat).2.2 _ _ hcheck _ _ _).1 he
  · simp at h
  · exact absurd h (by decide)

end EnergyQuery
