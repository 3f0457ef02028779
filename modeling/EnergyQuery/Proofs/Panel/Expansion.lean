/-
  Expanding the placeholders of a panel.

  The dashboard replaces placeholders in the written text of a statement, quoted
  names included.  The labels of an accepted inventory do not hold the mark that
  placeholders begin with, so nothing but the windows of the statement changes.

  * `Target.sql_eq_within`: the expanded text of a statement that is spelled
    without marks is the text of the statement for the fixed window;
  * `Panel.expansion_structural`: so it is for every target of an accepted
    inventory.
-/
import EnergyQuery.Proofs.Panel.Totality
import EnergyQuery.Proofs.Time.Expansion

namespace EnergyQuery

open Sql Placeholder

/-- The text does not hold the start of a placeholder. -/
def NoMark (s : String) : Prop :=
  hasPlaceholderMark s.toList = false

instance {s : String} : Decidable (NoMark s) :=
  inferInstanceAs (Decidable (_ = false))

theorem noMark_append {s t : String} (hs : Ordinary s) (ht : NoMark t) : NoMark (s ++ t) := by
  have hfree := unmarked_of_no_dollar (no_dollar_of_ordinary hs)
  rw [NoMark, String.toList_append, hfree.hasPlaceholderMark_append]
  exact ht

theorem admits_noMark : Admits NoMark NoMark where
  name ha hb := noMark_append (ha.ordinary.append (by decide))
    (unmarked_of_no_dollar (no_dollar_of_ordinary hb.ordinary)).hasPlaceholderMark_eq
  literal := by decide

/-- The expanded text of a statement without marks is its text for the fixed window. -/
theorem Target.sql_eq_within {t : Target} (h : t.statement.Spelled NoMark NoMark) (r : TimeRange) :
    ∃ ts us, t.statement.tokens = .ok ts ∧ (t.statement.within r.window).tokens = .ok us ∧
      List.Forall₂ (Token.Within r.window) ts us ∧ t.sql (some r) = .ok (Token.render us) ∧
        NoMark (Token.render us) := by
  obtain ⟨ts, us, hts, hus, hrel, hexpand, hmark⟩ :=
    expand_render (fun _ h => h) (fun _ h => h) h r
  refine ⟨ts, us, hts, hus, hrel, ?_, hmark⟩
  rw [sql, Statement.render, hts, ← hexpand]
  rfl

namespace Panel
variable {d : Devices}

/-- The targets of an accepted inventory have no marks but those of their windows. -/
theorem exists_targets_noMark (p : Panel) (hd : d.check = .ok ()) :
    ∃ ts, p.targets d = .ok ts ∧ ∀ t ∈ ts, t.statement.Spelled NoMark NoMark := by
  have hlabels := Devices.labels_of_check hd
  have hname : ∀ id ∈ d.weathers, ∀ l ∈ Labels.shown d.weatherLabels,
      NoMark (Family.weather.relation id ++ "." ++ l) := by
    intro id _ l hl
    have hrelation : IsWord (Family.weather.relation id) := Family.isWord_relation (by decide)
    exact noMark_append (hrelation.ordinary.append (by decide))
      (Labels.unmarked_of_mem_shown hlabels hl)
  obtain ⟨ts, hts, hspelled, -⟩ :=
    exists_targets (composable_queries p admits_noMark fun _ _ => ⟨hlabels, hname⟩)
  exact ⟨ts, hts, hspelled⟩

/-- **Expansion is structural.**  The expanded text of a target is the text of its statement for the
    fixed window; token by token only filters and bucket ranges differ from the statement with
    placeholders, and no placeholder is left. -/
theorem expansion_structural (d : Devices) (hd : d.check = .ok ()) (p : Panel) :
    ∃ targets, p.targets d = .ok targets ∧ ∀ t ∈ targets, ∀ r : TimeRange,
      t.sql (some r) = (t.statement.within r.window).render ∧
        ∃ ts us, t.statement.tokens = .ok ts ∧ (t.statement.within r.window).tokens = .ok us ∧
          List.Forall₂ (Token.Within r.window) ts us ∧ t.sql (some r) = .ok (Token.render us) ∧
            NoMark (Token.render us) := by
  obtain ⟨targets, htargets, hspelled⟩ := exists_targets_noMark p hd
  refine ⟨targets, htargets, fun t ht r => ?_⟩
  obtain ⟨ts, us, hts, hus, hrel, hsql, hmark⟩ := Target.sql_eq_within (hspelled t ht) r
  refine ⟨?_, ts, us, hts, hus, hrel, hsql, hmark⟩
  rw [hsql, Statement.render, hus]
  rfl

/-- Two weather stations, with labels that hold delimiters and a bare dollar sign. -/
def labelledStation : Devices where
  weathers := [3, 7]
  weatherLabels := ["North \"side\"", "", "$_5 'attic'"]

/-- The first month of 2024. -/
def january : TimeRange where
  start := ⟨2024, 1, 1, 0, 0, 0, 0, 0⟩
  stop := ⟨2024, 2, 1, 0, 0, 0, 0, 0⟩

/-- With one of the stations, only the filter of the first target is replaced. -/
theorem expansion_structural_station :
    Devices.check { labelledStation with weathers := [3] } = .ok () ∧
      ∃ t u v w, weather.targets { labelledStation with weathers := [3] } = .ok [t, u, v, w] ∧
        t.sql none = .ok ("SELECT time, temp_c AS \"weather3.temp_c\", " ++
          "temp1_c AS \"weather3.North \"\"side\"\"\", temp3_c AS \"weather3.$_5 'attic'\" " ++
          "FROM weather WHERE series_id = 3 AND $__timeFilter(time) ORDER BY time") ∧
        t.sql (some january) = .ok ("SELECT time, temp_c AS \"weather3.temp_c\", " ++
          "temp1_c AS \"weather3.North \"\"side\"\"\", temp3_c AS \"weather3.$_5 'attic'\" " ++
          "FROM weather WHERE series_id = 3 AND " ++
          "time BETWEEN '2024-01-01T00:00:00Z' AND '2024-02-01T00:00:00Z' ORDER BY time") ∧
        t.sql (some january) = (t.statement.within january.window).render ∧
        ∃ ts us, t.statement.tokens = .ok ts ∧ (t.statement.within january.window).tokens = .ok us ∧
          List.Forall₂ (Token.Within january.window) ts us ∧
            t.sql (some january) = .ok (Token.render us) ∧ NoMark (Token.render us) := by
  obtain ⟨targets, htargets, h⟩ :=
    expansion_structural { labelledStation with weathers := [3] } rfl weather
  have hmem {t : Target} {more : List Target}
      (hall : weather.targets { labelledStation with weathers := [3] } = .ok (t :: more)) :
      t ∈ targets := by
    rw [Except.ok.inj (htargets.symm.trans hall)]
    exact List.mem_cons_self
  refine ⟨rfl, _, _, _, _, rfl, by decide +kernel, ?_, h _ (hmem rfl) january⟩
  rw [(h _ (hmem rfl) january).1]
  decide +kernel

end Panel

end EnergyQuery
