/-
  The lines of a printed panel.

  A panel is printed with a line break after each statement.  A reader finds the
  statements again, line by line, if none of them holds a line break.  All that
  the house writes is free of them; what is left are the labels of the weather
  channels, which are accepted whatever stands between their first and last
  character.

  * `Text.lines`: the lines of a text; `lines_eq_iff`, `length_lines_eq_iff`: they
    are the texts that were ended by line breaks exactly if none of those holds one;
  * `Target.oneLine_sql_iff`: expanding placeholders adds and removes no line break;
  * `Panel.oneLine_targets`: the statements of a panel are without line breaks,
    but for labels;
  * `renderPanel_lines`: when the lines of a printed panel are its statements.
-/
import EnergyQuery.Proofs.Panel.Expansion
import EnergyQuery.Proofs.Query.Labelling

namespace EnergyQuery

open Sql

/-! ## Lines -/

namespace Text

/-- The lines of a text: the parts between line breaks; after the last of these a line is there only
    if it is not empty. -/
def lines (s : String) : List String :=
  let parts := s.toList.splitOn '\n'
  (if parts.getLast? = some [] then parts.dropLast else parts).map String.ofList

/-- The text is a single line. -/
def OneLine (s : String) : Prop :=
  '\n' ∉ s.toList

instance {s : String} : Decidable (OneLine s) :=
  inferInstanceAs (Decidable (_ ∉ _))

variable {ts : List String}

/-- Splitting finds the separators. -/
theorem length_splitOn_eq_one_iff {α : Type} [DecidableEq α] {a : α} {l : List α} :
    (l.splitOn a).length = 1 ↔ a ∉ l := by
  constructor
  · intro hlength hmem
    obtain ⟨s, t, rfl⟩ := List.append_of_mem hmem
    have hs := List.length_pos_of_ne_nil (List.splitOn_ne_nil a s)
    have ht := List.length_pos_of_ne_nil (List.splitOn_ne_nil a t)
    rw [List.splitOn_append_cons_self, List.length_append] at hlength
    omega
  · intro h
    rw [List.splitOn_eq_singleton h, List.length_singleton]

theorem splitOn_join : (String.join (ts.map (· ++ "\n"))).toList.splitOn '\n' =
    ts.flatMap (fun t => t.toList.splitOn '\n') ++ [[]] := by
  induction ts with
  | nil => rfl
  | cons t ts ih =>
    have hsplit : (String.join ((t :: ts).map (· ++ "\n"))).toList =
        t.toList ++ '\n' :: (String.join (ts.map (· ++ "\n"))).toList := by
      simp
    rw [hsplit, List.splitOn_append_cons_self, ih, List.flatMap_cons, List.append_assoc]

/-- The lines of texts that are each ended by a line break. -/
theorem lines_join : lines (String.join (ts.map (· ++ "\n"))) =
    (ts.flatMap fun t => t.toList.splitOn '\n').map String.ofList := by
  simp only [lines, splitOn_join, List.getLast?_concat, if_true, List.dropLast_concat]

theorem lines_of_oneLine (h : ∀ t ∈ ts, OneLine t) :
    lines (String.join (ts.map (· ++ "\n"))) = ts := by
  have hparts : ts.flatMap (fun t => t.toList.splitOn '\n') = ts.map String.toList := by
    rw [List.map_eq_flatMap]
    exact List.flatMap_congr fun t ht => List.splitOn_eq_singleton (h t ht)
  rw [lines_join, hparts, List.map_map]
  simp [Function.comp_def]

theorem length_le_lines (ts : List String) :
    ts.length ≤ (lines (String.join (ts.map (· ++ "\n")))).length := by
  rw [lines_join, List.length_map]
  induction ts with
  | nil => simp
  | cons t ts ih =>
    have hhead := List.length_pos_of_ne_nil (List.splitOn_ne_nil '\n' t.toList)
    rw [List.flatMap_cons, List.length_append, List.length_cons]
    omega

/-- **There are as many lines as texts exactly if each text is a single line.** -/
theorem length_lines_eq_iff :
    (lines (String.join (ts.map (· ++ "\n")))).length = ts.length ↔ ∀ t ∈ ts, OneLine t := by
  refine ⟨fun h => ?_, fun h => by rw [lines_of_oneLine h]⟩
  induction ts with
  | nil => simp
  | cons t ts ih =>
    have hhead := List.length_pos_of_ne_nil (List.splitOn_ne_nil '\n' t.toList)
    have hmore := length_le_lines ts
    rw [lines_join, List.length_map] at h hmore ih
    rw [List.flatMap_cons, List.length_append, List.length_cons] at h
    rw [List.forall_mem_cons]
    exact ⟨length_splitOn_eq_one_iff.1 (by omega), ih (by omega)⟩

/-- **The lines are the texts exactly if each text is a single line.** -/
theorem lines_eq_iff : lines (String.join (ts.map (· ++ "\n"))) = ts ↔ ∀ t ∈ ts, OneLine t :=
  ⟨fun h => length_lines_eq_iff.1 (congrArg List.length h), lines_of_oneLine⟩

end Text

/-! ## Spelled texts -/

namespace Text

theorem oneLine_append {s t : String} : OneLine (s ++ t) ↔ OneLine s ∧ OneLine t := by
  simp [OneLine]

theorem oneLine_of_ordinary {s : String} (h : Ordinary s) : OneLine s :=
  fun hmem => absurd (List.all_eq_true.1 h _ hmem) (by decide)

end Text

open Text

/-- Names and literals of the house are without line breaks. -/
theorem admits_oneLine : Admits OneLine OneLine where
  name ha hb := oneLine_of_ordinary ((ha.ordinary.append (by decide)).append hb.ordinary)
  literal := by decide

/-- The window is written without line breaks. -/
structure Sql.Window.OneLine (w : Window) : Prop where
  filter : Text.OneLine w.filter
  start : Text.OneLine w.start
  stop : Text.OneLine w.stop

theorem Sql.Window.oneLine_selected : Window.selected.OneLine :=
  ⟨by decide, by decide, by decide⟩

theorem TimeRange.oneLine_window (r : TimeRange) : r.window.OneLine := by
  obtain ⟨hstart, hstop⟩ := r.not_mem_literals (c := '\n') rfl (by decide)
  refine ⟨?_, hstart, hstop⟩
  have hfilter : r.window.filter =
    timeColumn ++ " BETWEEN " ++ r.startLiteral ++ " AND " ++ r.stopLiteral := rfl
  simp only [hfilter, oneLine_append]
  exact ⟨⟨⟨by decide, hstart⟩, by decide⟩, hstop⟩

section
variable {N L : String → Prop} {w : Window}

/-- What is spelled with names and literals without line breaks has none. -/
theorem Sql.Restated.oneLine {t u : String} (hN : ∀ n, N n → OneLine n) (hL : ∀ l, L l → OneLine l)
    (h : Restated N L w t u) : OneLine t := by
  induction h with
  | ordinary h => exact oneLine_of_ordinary h
  | name h => exact not_mem_quoted (by decide) (hN _ h)
  | literal h => exact not_mem_quoted (by decide) (hL _ h)
  | filter => exact Window.oneLine_selected.filter
  | start => exact Window.oneLine_selected.start
  | stop => exact Window.oneLine_selected.stop
  | join _ hb _ _ ihs iht =>
    exact oneLine_append.2 ⟨oneLine_append.2 ⟨ihs, oneLine_of_ordinary hb⟩, iht⟩

/-- **A restated text is a single line exactly if the text is one.** -/
theorem Sql.Restated.oneLine_iff {t u : String} (hw : w.OneLine) (h : Restated N L w t u) :
    OneLine t ↔ OneLine u := by
  induction h with
  | ordinary | name | literal => rfl
  | filter => exact iff_of_true Window.oneLine_selected.filter hw.filter
  | start => exact iff_of_true Window.oneLine_selected.start hw.start
  | stop => exact iff_of_true Window.oneLine_selected.stop hw.stop
  | join _ _ _ _ ihs iht => simp only [oneLine_append, ihs, iht]

namespace Sql.Token
variable {ts us : List Token}

theorem oneLine_render : OneLine (render ts) ↔ ∀ t ∈ ts, OneLine t.text := by
  induction ts with
  | nil => exact iff_of_true (by decide) (by simp)
  | cons t ts ih => rw [List.forall_mem_cons, ← ih, ← oneLine_append, render_cons]

theorem oneLine_render_of_restated (hN : ∀ n, N n → OneLine n) (hL : ∀ l, L l → OneLine l)
    (h : List.Forall₂ (Token.Restated N L w) ts us) : OneLine (render ts) := by
  refine oneLine_render.2 fun t ht => ?_
  obtain ⟨i, hi, rfl⟩ := List.getElem_of_mem ht
  exact (h.get hi (h.length_eq ▸ hi)).text.oneLine hN hL

theorem oneLine_render_iff (hw : w.OneLine) (h : List.Forall₂ (Token.Restated N L w) ts us) :
    OneLine (render ts) ↔ OneLine (render us) := by
  rw [oneLine_render, oneLine_render]
  induction h with
  | nil => simp
  | cons ht _ ih => rw [List.forall_mem_cons, List.forall_mem_cons, ih, ht.text.oneLine_iff hw]

end Sql.Token

/-! ## Statements -/

/-- The statement is written in a single line. -/
def Sql.Statement.OneLine (s : Statement) : Prop :=
  ∀ text, s.render = .ok text → Text.OneLine text

theorem Sql.Statement.oneLine_iff_of_tokens {s : Statement} {ts : List Token}
    (h : s.tokens = .ok ts) : s.OneLine ↔ Text.OneLine (Token.render ts) := by
  have hrender : s.render = .ok (Token.render ts) := by
    rw [render, h]
    rfl
  constructor
  · exact fun hs => hs _ hrender
  · intro hts text htext
    rwa [← Except.ok.inj (hrender.symm.trans htext)]

theorem Sql.Statement.Spelled.oneLine {s : Statement} (hN : ∀ n, N n → Text.OneLine n)
    (hL : ∀ l, L l → Text.OneLine l) (h : s.Spelled N L) : s.OneLine := by
  obtain ⟨ts, us, hts, -, hrel⟩ := h.exists_tokens (w := .selected)
  exact (oneLine_iff_of_tokens hts).2 (Token.oneLine_render_of_restated hN hL hrel)

end

namespace Target
variable {t : Target} {range : Option TimeRange}

/-- **Expanding placeholders adds and removes no line break.** -/
theorem oneLine_sql_iff (h : t.statement.Spelled NoMark NoMark) {text : String}
    (htext : t.sql range = .ok text) : OneLine text ↔ t.statement.OneLine := by
  cases range with
  | none =>
    obtain ⟨ts, -, hts, -, -⟩ := h.exists_tokens (w := .selected)
    obtain rfl : Token.render ts = text := by
      rw [sql, Statement.render, hts] at htext
      exact Except.ok.inj htext
    rw [Statement.oneLine_iff_of_tokens hts]
  | some r =>
    obtain ⟨ts, us, hts, hus, hrel⟩ := h.exists_tokens (w := r.window)
    obtain ⟨-, us', -, hus', -, hsql, -⟩ := sql_eq_within h r
    obtain rfl : us = us' := Except.ok.inj (hus.symm.trans hus')
    obtain rfl : Token.render us = text := Except.ok.inj (hsql.symm.trans htext)
    rw [Statement.oneLine_iff_of_tokens hts, Token.oneLine_render_iff r.oneLine_window hrel]

/-- The printed texts are single lines exactly if the statements are. -/
theorem oneLine_raw_iff {ts : List Target} (h : ∀ t ∈ ts, t.statement.Spelled NoMark NoMark)
    {raw : List RawTarget} (hraw : ts.mapM (Target.raw range) = .ok raw) :
    (∀ r ∈ raw, OneLine r.sql) ↔ ∀ t ∈ ts, t.statement.OneLine := by
  have hsteps := Fallible.forall₂_of_mapM_eq_ok hraw
  clear hraw
  induction hsteps with
  | nil => simp
  | @cons t r ts raw hr _ ih =>
    rw [List.forall_mem_cons] at h
    obtain ⟨text, hsql, hr⟩ := Fallible.bind_eq_ok.1 hr
    obtain rfl := Fallible.pure_eq_ok.1 hr
    rw [List.forall_mem_cons, List.forall_mem_cons, oneLine_sql_iff h.1 hsql]
    exact and_congr_right fun _ => ih h.2

end Target

/-! ## Panels -/

/-- The labels that are shown are single lines. -/
def Labels.OneLine (labels : List String) : Prop :=
  ∀ l ∈ shown labels, Text.OneLine l

instance {labels : List String} : Decidable (Labels.OneLine labels) :=
  inferInstanceAs (Decidable (∀ l ∈ Labels.shown labels, Text.OneLine l))

namespace Panel
variable {d : Devices}

/-- The statements of an accepted inventory are single lines if the labels are. -/
theorem oneLine_of_labels {p : Panel} {ts : List Target} (hd : d.check = .ok ())
    (h : p = weather → Labels.OneLine d.weatherLabels) (hts : p.targets d = .ok ts) :
    ∀ t ∈ ts, t.statement.OneLine := by
  have hlabels := Devices.labels_of_check hd
  have hname (hp : p = weather) : ∀ id ∈ d.weathers, ∀ l ∈ Labels.shown d.weatherLabels,
      OneLine (Family.weather.relation id ++ "." ++ l) := by
    intro id _ l hl
    have hrelation : IsWord (Family.weather.relation id) := Family.isWord_relation (by decide)
    exact oneLine_append.2
      ⟨oneLine_of_ordinary (hrelation.ordinary.append (by decide)), h hp l hl⟩
  obtain ⟨us, hus, hspelled, -⟩ :=
    exists_targets (composable_queries p admits_oneLine fun hp _ => ⟨hlabels, hname hp⟩)
  obtain rfl : us = ts := Except.ok.inj (hus.symm.trans hts)
  exact fun t ht => (hspelled t ht).oneLine (fun _ h => h) fun _ h => h

/-- Every label that is shown stands in the statement of the temperatures. -/
theorem labels_of_oneLine {ts : List Target} (hd : d.check = .ok ()) (hids : d.weathers ≠ [])
    (hts : weather.targets d = .ok ts) (h : ∀ t ∈ ts, t.statement.OneLine) :
    Labels.OneLine d.weatherLabels := by
  intro l hl hmem
  have hlabels := Devices.labels_of_check hd
  obtain ⟨lexemes, -, ⟨s, text, hs, hrender, hlex⟩, -, -, hnames, -⟩ :=
    Weather.reads_temperatures hids hlabels hlabels fun _ => rfl
  obtain ⟨t, ht, hstatement⟩ := exists_target_of_mem_queries hts
    (q := .series d.weathers (Weather.temperatures · d.weatherLabels)) (by simp [queries])
    (by simpa [Query.series] using hids)
  obtain rfl : s = t.statement := Except.ok.inj (hs.symm.trans hstatement)
  have hcolumn : ∃ n ∈ Weather.columnNames d.weathers d.weatherLabels, '\n' ∈ n.toList := by
    obtain ⟨id, hid⟩ := List.exists_mem_of_ne_nil _ hids
    refine ⟨_, List.mem_flatMap.2 ⟨id, hid, List.mem_map.2 ⟨l, List.mem_cons_of_mem _ hl, rfl⟩⟩, ?_⟩
    rw [String.toList_append]
    exact List.mem_append_right _ hmem
  obtain ⟨n, hn, hmem⟩ := hcolumn
  have hquoted : n ∈ contents .name lexemes := by
    rw [hnames, Weather.quotedNames]
    split
    · exact hn
    · exact List.mem_append_left _ hn
  exact h t ht text hrender (mem_of_mem_contents hlex hquoted hmem)

/-- **The statements of an accepted inventory are single lines, but for the labels** of the
    weather. -/
theorem oneLine_targets {p : Panel} {ts : List Target} (hd : d.check = .ok ())
    (hts : p.targets d = .ok ts) (hne : ts ≠ []) :
    (∀ t ∈ ts, t.statement.OneLine) ↔ (p = weather → Labels.OneLine d.weatherLabels) := by
  refine ⟨?_, fun h => oneLine_of_labels hd h hts⟩
  rintro h rfl
  refine labels_of_oneLine hd (fun hids => hne ?_) hts h
  have hnone : (weather.queries d).filter (·.present) = [] := by simp [queries, Query.series, hids]
  have hqueries := forall₂_targets hts
  rw [hnone] at hqueries
  exact List.forall₂_nil_left_iff.1 hqueries

end Panel

/-! ## Printing a panel -/

section
variable {p : Panel} {s : Settings} {env : Environment} {form : OutputForm} {expand : Bool}
  {text : String}

/-- What a printed panel is made of. -/
theorem exists_raw_of_renderPanel (h : renderPanel p s env form expand = .ok text) :
    ∃ range targets raw, expansion s env expand = .ok range ∧ p.targets s.devices = .ok targets ∧
      targets ≠ [] ∧ targets.mapM (Target.raw range) = .ok raw ∧ text = form.text p raw := by
  obtain ⟨range, hrange, h⟩ := Fallible.bind_eq_ok.1 h
  obtain ⟨targets, htargets, h⟩ := Fallible.bind_eq_ok.1 h
  split at h
  · simp at h
  · next hne =>
    obtain ⟨raw, hraw, h⟩ := Fallible.bind_eq_ok.1 h
    exact ⟨range, targets, raw, hrange, Fallible.mapError_eq_ok.1 htargets, by simpa using hne,
      Fallible.mapError_eq_ok.1 hraw, (Fallible.pure_eq_ok.1 h).symm⟩

/-- A printed panel are the texts of its targets, each ended by a line break, and these are single
    lines, but for the labels. -/
theorem oneLine_renderPanel (h : s.check env = .ok ())
    (htext : renderPanel p s env .sql expand = .ok text) :
    ∃ range targets raw, expansion s env expand = .ok range ∧ p.targets s.devices = .ok targets ∧
      targets.mapM (Target.raw range) = .ok raw ∧ (raw.map (·.sql)).length = targets.length ∧
        text = String.join ((raw.map (·.sql)).map (· ++ "\n")) ∧
          ((∀ t ∈ raw.map (·.sql), OneLine t) ↔
            (p = .weather → Labels.OneLine s.devices.weatherLabels)) := by
  obtain ⟨range, targets, raw, hrange, htargets, hne, hraw, rfl⟩ := exists_raw_of_renderPanel htext
  have hd := Settings.devices_of_check h
  obtain ⟨ts, hts, hspelled⟩ := Panel.exists_targets_noMark p hd
  obtain rfl : ts = targets := Except.ok.inj (hts.symm.trans htargets)
  refine ⟨range, ts, raw, hrange, htargets, hraw, ?_, ?_, ?_⟩
  · rw [List.length_map, (Fallible.forall₂_of_mapM_eq_ok hraw).length_eq]
  · rw [List.map_map]
    rfl
  · rw [List.forall_mem_map, Target.oneLine_raw_iff hspelled hraw,
      Panel.oneLine_targets hd htargets hne]

end

/-- **The lines of a printed panel.**  For accepted settings a printed panel has as many lines as
    targets, and its lines are their texts, if and only if no label of the weather that the panel
    shows holds a line break. -/
theorem renderPanel_lines (p : Panel) (s : Settings) (env : Environment) (expand : Bool)
    (text : String) (h : s.check env = .ok ()) (htext : renderPanel p s env .sql expand = .ok text) :
    ∃ range targets raw, expansion s env expand = .ok range ∧ p.targets s.devices = .ok targets ∧
      targets.mapM (Target.raw range) = .ok raw ∧
        ((Text.lines text).length = targets.length ↔
          (p = .weather → Labels.OneLine s.devices.weatherLabels)) ∧
        (Text.lines text = raw.map (·.sql) ↔
          (p = .weather → Labels.OneLine s.devices.weatherLabels)) := by
  obtain ⟨range, targets, raw, hrange, htargets, hraw, hlength, rfl, hlines⟩ :=
    oneLine_renderPanel h htext
  refine ⟨range, targets, raw, hrange, htargets, hraw, ?_, ?_⟩
  · rw [← hlines, ← hlength, length_lines_eq_iff]
  · rw [← hlines, lines_eq_iff]

theorem renderPanel_lines_labelledStation :
    Settings.check { devices := Panel.labelledStation } ⟨[]⟩ = .ok () ∧
      ∃ text, renderPanel .weather { devices := Panel.labelledStation } ⟨[]⟩ .sql false = .ok text ∧
        (Text.lines text).length = 4 := by
  have hcheck : Settings.check { devices := Panel.labelledStation } ⟨[]⟩ = .ok () := rfl
  obtain ⟨ts, hts, hlength⟩ : ∃ ts, Panel.weather.targets Panel.labelledStation = .ok ts ∧
    ts.length = 4 := ⟨_, rfl, rfl⟩
  refine ⟨hcheck, _, rfl, ?_⟩
  obtain ⟨_, us, _, -, hus, -, hlines, -⟩ :=
    renderPanel_lines .weather { devices := Panel.labelledStation } ⟨[]⟩ false _ hcheck rfl
  obtain rfl : ts = us := Except.ok.inj (hts.symm.trans hus)
  rw [← hlength]
  exact hlines.2 fun _ => by decide

/-- A station with a label that holds a line break. -/
def brokenStation : Settings where
  devices := { weathers := [3], weatherLabels := ["Garden\nShed"] }

/-- The label is accepted, and the first of the statements goes over two lines. -/
theorem label_breaks_line :
    brokenStation.check ⟨[]⟩ = .ok () ∧
      ∃ targets text, Panel.weather.targets brokenStation.devices = .ok targets ∧
        renderPanel .weather brokenStation ⟨[]⟩ .sql false = .ok text ∧
          (Text.lines text).length ≠ targets.length := by
  have hcheck : brokenStation.check ⟨[]⟩ = .ok () := rfl
  obtain ⟨text, htext⟩ :
    ∃ text, renderPanel .weather brokenStation ⟨[]⟩ .sql false = .ok text := ⟨_, rfl⟩
  obtain ⟨_, targets, raw, -, htargets, -, hlength, rfl, hlines⟩ := oneLine_renderPanel hcheck htext
  refine ⟨hcheck, targets, _, htargets, htext, fun h => ?_⟩
  rw [← hlength] at h
  exact absurd (hlines.1 (length_lines_eq_iff.1 h) rfl) (by decide)

end EnergyQuery
