/-
  Totals over the window beside `time`.

  A total over the window aggregates all its rows, so that it must not be
  selected beside the `time` of a row.  The builders of one family see to it:
  they refuse such a quantity, or stage its counter instead.

  * `Statement.Mixes`: some `SELECT` list of a statement, or of anything inside
    it, has a total over the window beside `time`;
  * `Apart`: the beginning of a text tells it from every such total;
  * `Family.mixes_staged_iff`, `Alignment.mixes_statement_iff`: a staged series
    mixes if a total over the window is staged, an alignment if one of its
    staged relations does;
  * `RowStatement`: the statements over one family with a row per instant, and
    `RowStatement.not_mixes`: none of them mixes.
-/
import EnergyQuery.Proofs.Query.Composition

namespace EnergyQuery

open Sql

/-! ## Selections -/

/-- The field computes the total over the window of a quantity of some family. -/
def Sql.Field.IsWindowTotal (x : Sql.Field) : Prop :=
  ∃ f ∈ Family.all, ∃ e ∈ f.catalog, e.quantity.isWindowTotal = true ∧ x.expr.text = e.expr.text

/-- A total over the window is selected beside `time`. -/
def BesideTime (fields : List Sql.Field) : Prop :=
  (∃ x ∈ fields, x.name.text = timeColumn) ∧ ∃ x ∈ fields, x.IsWindowTotal

/-- The `SELECT` list of a derived table has a total over the window beside `time`. -/
def Sql.Source.Mixes : Source → Prop
  | .derived chain _ => BesideTime chain.fields
  | _ => False

namespace Sql.Statement

mutual

/-- Some `SELECT` list of the statement, of its source or of a common table expression has a total
    over the window beside `time`. -/
def Mixes : Statement → Prop
  | ⟨_, ctes, fields, source, _, _⟩ =>
    BesideTime fields ∨ (∃ x ∈ source, x.Mixes) ∨ CtesMix ctes
termination_by structural s => s

/-- One of the common table expressions mixes. -/
def CtesMix : List Statement → Prop
  | [] => False
  | s :: more => s.Mixes ∨ CtesMix more
termination_by structural l => l

end

theorem ctesMix_iff {l : List Statement} : CtesMix l ↔ ∃ t ∈ l, t.Mixes := by
  induction l with
  | nil => simp [CtesMix]
  | cons s l ih => rw [CtesMix, ih, List.exists_mem_cons_iff]

/-- The parts of a statement that mixes. -/
theorem mixes_iff_parts {s : Statement} :
    s.Mixes ↔ BesideTime s.fields ∨ (∃ x ∈ s.source, x.Mixes) ∨ ∃ t ∈ s.ctes, t.Mixes := by
  rw [← ctesMix_iff]
  cases s
  rfl

/-- A statement over one relation mixes in its own `SELECT` list or in a common table expression. -/
theorem mixes_iff_of_relation {s : Statement} {r : String} (hs : s.source = some (.relation r)) :
    s.Mixes ↔ BesideTime s.fields ∨ ∃ t ∈ s.ctes, t.Mixes := by
  rw [mixes_iff_parts, hs]
  simp [Source.Mixes]

end Sql.Statement

/-! ## Texts -/

/-- The first characters are unlike those of a total over the window, whatever follows. -/
def apart : List Char → Bool
  | [] => false
  | c :: s => if c = '(' then s.head?.any (· != 'M') else c != 'M'

/-- The beginning of the text is unlike that of a total over the window. -/
def Apart (s : String) : Prop :=
  apart s.toList = true

instance {s : String} : Decidable (Apart s) :=
  inferInstanceAs (Decidable (_ = true))

section
variable {s t n : String} {x : Expr} {sign : Sign}

theorem Apart.append (h : Apart s) : Apart (s ++ t) := by
  unfold Apart at h ⊢
  rw [String.toList_append]
  match hs : s.toList with
  | [] => simp [hs, apart] at h
  | [c] => simp_all [apart]
  | c :: d :: rest => simpa [hs, apart] using h

/-- Parentheses around a text keep it apart. -/
theorem Apart.enclose {least : ℕ} (h : Apart s) : Apart (x.enclose least s) := by
  unfold Expr.enclose
  split
  · unfold Apart at h ⊢
    match hs : s.toList with
    | [] => simp [hs, apart] at h
    | c :: rest =>
      have hc : c ≠ 'M' := by
        rintro rfl
        simp [hs, apart] at h
      simp [hs, apart, hc]
  · exact h

theorem apart_quoteName : Apart (Text.quoteName n) := by
  simp [Apart, Text.quoteName, Text.quoted, apart]

theorem apart_orZero : Apart (Expr.orZero x).text :=
  ((Apart.append (by decide : Apart "COALESCE(")).append).append

theorem apart_lead (h : Apart x.text) : Apart (sign.lead x).text := by
  cases sign with
  | plus => exact h
  | minus => exact Apart.append (s := "-") (by decide)

/-- A signed sum begins with its first term. -/
theorem exists_text_foldl (terms : List (Sign × Expr)) (start : Expr) :
    ∃ r, (terms.foldl (fun total term => term.1.extend total term.2) start).text =
      start.text ++ r := by
  induction terms generalizing start with
  | nil => exact ⟨"", by simp⟩
  | cons term terms ih =>
    obtain ⟨r, hr⟩ := ih (term.1.extend start term.2)
    have hextend : ∃ r', (term.1.extend start term.2).text = start.text ++ r' := by
      obtain ⟨sign, e⟩ := term
      cases sign <;> exact ⟨_, String.append_assoc ..⟩
    obtain ⟨r', hr'⟩ := hextend
    exact ⟨r' ++ r, by rw [List.foldl_cons, hr, hr', String.append_assoc]⟩

theorem apart_signedSum {more : List (Sign × Expr)} (h : Apart x.text) :
    Apart (Expr.signedSum ((sign, x) :: more)).text := by
  obtain ⟨r, hr⟩ := exists_text_foldl more (sign.lead x)
  rw [Expr.signedSum, hr]
  exact (apart_lead h).append

/-- A sum of columns, a missing value counting as zero. -/
theorem apart_signedSum_orZero {α : Type} {g : α → Sign × Expr} {l : List α} (hl : l ≠ [])
    (hg : ∀ a ∈ l, ∃ sign x, g a = (sign, .orZero x)) : Apart (Expr.signedSum (l.map g)).text := by
  obtain ⟨a, l, rfl⟩ := List.exists_cons_of_ne_nil hl
  obtain ⟨sign, x, ha⟩ := hg a (by simp)
  rw [List.map_cons, ha]
  exact apart_signedSum apart_orZero

end

/-! ## Columns -/

namespace Family
variable {f : Family} {id : ℕ} {ids rest : List ℕ} {e : Entry} {q : Quantity} {qs : List Quantity}

theorem not_apart_windowTotal : ∀ f ∈ all, ∀ e ∈ f.catalog, e.quantity.isWindowTotal = true →
    ¬Apart e.expr.text := by
  decide

theorem apart_instant : ∀ f ∈ all, ∀ e ∈ f.catalog, e.quantity.isWindowTotal = false →
    Apart e.expr.text := by
  decide

theorem max_ne_windowTotal : ∀ f ∈ all, ∀ e ∈ f.catalog, ∀ g ∈ all, ∀ w ∈ g.catalog,
    w.quantity.isWindowTotal = true → (Expr.max e.expr).text ≠ w.expr.text := by
  decide

theorem apart_relation (hf : f ∈ all) : Apart (f.relation id) :=
  Apart.append ((by decide : ∀ f ∈ all, Apart f.basename) f hf)

theorem apart_columnOf (hf : f ∈ all) : Apart (f.columnOf id e).text :=
  ((apart_relation hf).append).append

theorem apart_sumOf (hf : f ∈ all) (hids : ids ≠ []) : Apart (f.sumOf ids e).text := by
  match ids, hids with
  | [i], _ => exact apart_columnOf hf
  | i :: j :: rest, _ =>
    have hsum : f.sumOf (i :: j :: rest) e = .signedSum
        ((i :: j :: rest).map fun id => (.plus, .orZero (f.columnOf id e))) := by
      rw [sumOf, Expr.sum, List.map_map]
      · rfl
      · simp
    rw [hsum]
    exact apart_signedSum_orZero (by simp) fun id _ => ⟨_, _, rfl⟩

theorem apart_averageOf {threshold : Expr} (hf : f ∈ all) (hids : ids ≠ []) :
    Apart (f.averageOf ids e threshold).text := by
  match ids, hids with
  | [i], _ => exact apart_columnOf hf
  | i :: j :: rest, _ =>
    have hsum : Apart (f.sumOf (i :: j :: rest) e).text := apart_sumOf hf (by simp)
    exact (hsum.enclose.append).append

end Family

/-! ## Selections without totals over the window -/

theorem Sql.Field.not_isWindowTotal_of_apart {x : Sql.Field} (h : Apart x.expr.text) :
    ¬x.IsWindowTotal := by
  rintro ⟨f, hf, e, he, hw, htext⟩
  exact Family.not_apart_windowTotal f hf e he hw (htext ▸ h)

theorem not_besideTime {fields : List Sql.Field} (h : ∀ x ∈ fields, Apart x.expr.text) :
    ¬BesideTime fields :=
  fun ⟨_, x, hx, htotal⟩ => Field.not_isWindowTotal_of_apart (h x hx) htotal

/-- Columns under quoted names are not selected beside `time`. -/
theorem not_besideTime_of_quoted {x : Expr} {n : String} : ¬BesideTime [⟨x, .quoted n⟩] := by
  rintro ⟨⟨y, hy, htime⟩, -⟩
  obtain rfl := List.mem_singleton.1 hy
  have hquote : '"' ∈ (Text.quoteName n).toList := by simp [Text.quoteName, Text.quoted]
  have hmem : '"' ∈ timeColumn.toList := (htime : Text.quoteName n = timeColumn) ▸ hquote
  exact absurd hmem (by decide)

theorem apart_time : Apart Field.time.expr.text := by
  decide

namespace Family
variable {f : Family} {id : ℕ} {ids rest : List ℕ} {e : Entry} {q : Quantity} {qs : List Quantity}
  {fields : List Sql.Field}

theorem apart_catalogEntry (hf : f ∈ all) (hd : f.Declares q) (hq : q.isWindowTotal = false) :
    Apart (f.catalogEntry q).expr.text :=
  apart_instant f hf _ (catalogEntry_mem hd) (by rwa [quantity_catalogEntry hd])

/-- **A staged series mixes exactly if a total over the window is staged.** -/
theorem mixes_staged_iff (hf : f ∈ all) (hd : ∀ q ∈ qs, f.Declares q) :
    (f.staged qs id).Mixes ↔ ∃ q ∈ qs, q.isWindowTotal = true := by
  have hfields : (f.staged qs id).fields = .time :: qs.map fun q => (f.catalogEntry q).field := rfl
  have hctes : (f.staged qs id).ctes = [] := rfl
  rw [Statement.mixes_iff_of_relation (r := f.table) rfl, hctes, hfields]
  constructor
  · rintro (⟨-, x, hx, htotal⟩ | ⟨t, ht, -⟩)
    · by_contra hnone
      refine Field.not_isWindowTotal_of_apart ?_ htotal
      rcases List.mem_cons.1 hx with rfl | hx
      · exact apart_time
      · obtain ⟨q, hq, rfl⟩ := List.mem_map.1 hx
        have hinstant : q.isWindowTotal = false := by
          simpa using fun hw => hnone ⟨q, hq, hw⟩
        exact apart_catalogEntry hf (hd q hq) hinstant
    · simp at ht
  · rintro ⟨q, hq, hw⟩
    refine .inl ⟨⟨.time, by simp, rfl⟩, (f.catalogEntry q).field, ?_, f, hf, f.catalogEntry q,
      catalogEntry_mem (hd q hq), by rwa [quantity_catalogEntry (hd q hq)], rfl⟩
    exact List.mem_cons_of_mem _ (List.mem_map_of_mem hq)

/-- One device, read directly from its table. -/
theorem not_mixes_scan (h : ∀ x ∈ fields, Apart x.expr.text) :
    ¬(f.scan id (.time :: fields)).inWindow.ordered.Mixes := by
  rw [Statement.mixes_iff_of_relation (r := f.table) rfl]
  rintro (hbeside | ⟨t, ht, -⟩)
  · refine not_besideTime (fun x hx => ?_) hbeside
    rcases List.mem_cons.1 hx with rfl | hx
    · exact apart_time
    · exact h x hx
  · simp [scan, Statement.inWindow, Statement.ordered, Statement.restrict] at ht

end Family

/-- Columns over a joined row: each is computed from staged columns, under a quoted name. -/
def Computed (fields : List Sql.Field) : Prop :=
  ∀ x ∈ fields, Apart x.expr.text ∧ ∃ n, x.name = .quoted n

/-- **An alignment mixes exactly if one of its staged relations does.** -/
theorem Alignment.mixes_statement_iff {a : Alignment} (ha : Apart a.anchor)
    (hfields : Computed a.fields) : a.statement.Mixes ↔ ∃ t ∈ a.staged, t.Mixes := by
  have houter : ¬BesideTime a.statement.fields := by
    refine not_besideTime fun x hx => ?_
    rcases List.mem_cons.1 hx with rfl | hx
    · exact apart_time
    · obtain ⟨y, hy, rfl⟩ := List.mem_map.1 hx
      obtain ⟨-, n, hn⟩ := hfields y hy
      have htext : (Field.ofName y.name).expr.text = Text.quoteName n := by rw [hn]; rfl
      rw [htext]
      exact apart_quoteName
  have hinner : ¬BesideTime a.inner.fields := by
    refine not_besideTime fun x hx => ?_
    rcases List.mem_cons.1 hx with rfl | hx
    · unfold timeOf
      split
      · exact (ha.append).append
      · exact (Apart.append (by decide : Apart "COALESCE(")).append
    · exact (hfields x hx).1
  have hsource : (∃ x ∈ a.statement.source, x.Mixes) ↔ BesideTime a.inner.fields := by
    simp [Alignment.statement, Alignment.source, Statement.timePresent, Statement.ordered,
      Statement.restrict, Source.Mixes]
  rw [Statement.mixes_iff_parts, hsource, or_iff_right houter, or_iff_right hinner]
  rfl

theorem Family.not_mixes_aligned {f : Family} {id : ℕ} {rest : List ℕ} {qs : List Quantity}
    {fields : List Sql.Field} (hf : f ∈ all)
    (hq : ∀ q ∈ qs, f.Declares q ∧ q.isWindowTotal = false) (hfields : Computed fields) :
    ¬((f.aligned id rest qs).compute fields).statement.Mixes := by
  have hcompute : ((f.aligned id rest qs).compute fields).fields = fields := rfl
  rw [Alignment.mixes_statement_iff (a := (f.aligned id rest qs).compute fields)
    (apart_relation hf) (hcompute.symm ▸ hfields)]
  rintro ⟨t, ht, hmixes⟩
  obtain ⟨i, -, rfl⟩ := List.mem_map.1 ht
  obtain ⟨q, hmem, hw⟩ := (mixes_staged_iff hf fun q hmem => (hq q hmem).1).1 hmixes
  simp [(hq q hmem).2] at hw

/-! ## Builders of one family -/

section
variable {f : Family} {ids : List ℕ} {q : Quantity} {s : Statement} {a : Alignment}

/-- Channels that are chosen one by one. -/
inductive PerDevice.Chosen (f : Family) (ids : List ℕ) : PerDevice → Prop
  | start : Chosen f ids { family := f, ids := ids }
  | choose {p p' : PerDevice} {c : Channel} :
    Chosen f ids p → p.choose c = .ok p' → Chosen f ids p'

namespace PerDevice
variable {p : PerDevice}

/-- A chosen channel has a value at every instant. -/
theorem Chosen.instant (h : Chosen f ids p) :
    p.family = f ∧ ∀ c ∈ p.channels, c.quantity.isWindowTotal = false := by
  induction h with
  | start => exact ⟨rfl, by simp⟩
  | @choose p p' c _ hc ih =>
    rw [PerDevice.choose, Fallible.bind_unit_eq_ok Quantity.requireInstant_eq_ok_iff,
      Fallible.pure_eq_ok] at hc
    obtain ⟨hinstant, rfl⟩ := hc
    refine ⟨ih.1, fun d hd => ?_⟩
    rcases List.mem_append.1 hd with hd | hd
    · exact ih.2 d hd
    · obtain rfl := List.mem_singleton.1 hd
      exact hinstant

theorem not_mixes (hf : p.family ∈ Family.all)
    (hp : ∀ c ∈ p.channels, c.quantity.isWindowTotal = false) (ha : p.alignment = .ok a) :
    ¬a.statement.Mixes := by
  obtain ⟨id, rest, -, hd, rfl⟩ := alignment_eq_ok_iff.1 ha
  refine Family.not_mixes_aligned hf (fun q hq => ⟨hd q hq, ?_⟩) fun x hx => ?_
  · obtain ⟨c, hc, rfl⟩ := List.mem_map.1 (List.mem_eraseDups.1 hq)
    exact hp c hc
  · obtain ⟨id, -, hx⟩ := List.mem_flatMap.1 hx
    obtain ⟨c, -, rfl⟩ := List.mem_map.1 hx
    exact ⟨Family.apart_columnOf hf, _, rfl⟩

theorem statement_eq_ok_iff : p.statement = .ok s ↔ ∃ a, p.alignment = .ok a ∧ s = a.statement := by
  simp only [statement, Fallible.bind_eq_ok, Fallible.pure_eq_ok, eq_comm (a := s)]

end PerDevice

/-- Columns over all devices that are added one by one. -/
inductive Combined.Built (f : Family) (ids : List ℕ) : Combined → Prop
  | start : Built f ids { family := f, ids := ids }
  | sum {c c' : Combined} {q : Quantity} : Built f ids c → c.sum q = .ok c' → Built f ids c'
  | average {c c' : Combined} {q : Quantity} {threshold : Expr} :
    Built f ids c → c.average q threshold = .ok c' → Built f ids c'

namespace Combined
variable {c c' : Combined}

/-- Every column combines a quantity that has a value at every instant. -/
def Instant (c : Combined) : Prop :=
  ∀ column ∈ c.columns, column.1.isWindowTotal = false ∧
    Apart column.2.expr.text ∧ ∃ n, column.2.name = .quoted n

theorem Instant.add {x : Expr} {label : String} (h : c.Instant) (hq : q.isWindowTotal = false)
    (hx : Apart x.text) : (c.add q x label).Instant := by
  intro column hmem
  rcases List.mem_append.1 hmem with hmem | hmem
  · exact h column hmem
  · obtain rfl := List.mem_singleton.1 hmem
    exact ⟨hq, hx, _, rfl⟩

theorem Built.instant (hf : f ∈ Family.all) (h : Built f ids c) : c.family = f ∧ c.Instant := by
  induction h with
  | start => exact ⟨rfl, by simp [Instant]⟩
  | sum _ hsum ih =>
    obtain ⟨hq, hids, -, rfl⟩ := sum_eq_ok_iff.1 hsum
    exact ⟨ih.1, ih.2.add hq (Family.apart_sumOf (ih.1 ▸ hf) hids)⟩
  | average _ haverage ih =>
    obtain ⟨hq, hids, -, rfl⟩ := average_eq_ok_iff.1 haverage
    exact ⟨ih.1, ih.2.add hq (Family.apart_averageOf (ih.1 ▸ hf) hids)⟩

theorem not_mixes (hf : c.family ∈ Family.all) (hc : c.Instant) (hs : c.statement = .ok s) :
    ¬s.Mixes := by
  obtain ⟨id, rest, -, hd, rfl⟩ := statement_eq_ok_iff.1 hs
  refine Family.not_mixes_aligned hf (fun q hq => ⟨hd q hq, ?_⟩) fun x hx => ?_
  · obtain ⟨column, hmem, rfl⟩ := List.mem_map.1 (List.mem_eraseDups.1 hq)
    exact (hc column hmem).1
  · obtain ⟨column, hmem, rfl⟩ := List.mem_map.1 hx
    exact (hc column hmem).2

end Combined

namespace Family
variable {channels : List Channel} {qs : List Quantity}

theorem not_mixes_labelled (hf : f ∈ all) (hs : f.labelled ids channels = .ok s) : ¬s.Mixes := by
  obtain ⟨hc, ⟨id, rfl, rfl⟩ | ⟨id, rest, rfl, rfl⟩⟩ := labelled_cases hs
  · refine not_mixes_scan fun x hx => ?_
    obtain ⟨c, hmem, rfl⟩ := List.mem_map.1 hx
    exact apart_catalogEntry hf (hc c hmem).2 (hc c hmem).1
  · have hq := (PerDevice.declares_quantities_iff (p := ⟨f, id :: rest, channels⟩)).2
      fun c hmem => (hc c hmem).2
    exact PerDevice.not_mixes hf (fun c hmem => (hc c hmem).1)
      (PerDevice.alignment_eq_ok_iff.2 ⟨id, rest, rfl, hq, rfl⟩)

theorem not_mixes_total (hf : f ∈ all) (hs : f.total ids q = .ok s) : ¬s.Mixes := by
  obtain ⟨⟨hq, hd⟩, ⟨id, rfl, rfl⟩ | ⟨id, rest, rfl, rfl⟩⟩ := total_cases hs
  · refine not_mixes_scan fun x hx => ?_
    obtain rfl := List.mem_singleton.1 hx
    exact apart_catalogEntry hf hd hq
  · refine not_mixes_aligned hf (by simpa using ⟨hd, hq⟩) fun x hx => ?_
    obtain rfl := List.mem_singleton.1 hx
    exact ⟨apart_sumOf hf (by simp), _, rfl⟩

theorem not_mixes_perDevice (hf : f ∈ all) (ha : f.perDevice ids qs = .ok a) :
    ¬a.statement.Mixes := by
  obtain ⟨hq, ha⟩ := perDevice_eq_ok_iff.1 ha
  refine PerDevice.not_mixes hf (fun c hc => ?_) ha
  obtain ⟨q, hmem, rfl⟩ := List.mem_map.1 hc
  exact hq q hmem

end Family

namespace Buckets
variable {b : Buckets} {id : ℕ} {e : Entry}

theorem apart_shifted {x : Expr} (h : Apart x.text) : Apart (b.shifted x).text := by
  unfold shifted
  split
  · exact h
  · exact h.append.append

theorem not_mixes_statement : ¬b.statement.Mixes := by
  have hfields : ¬BesideTime b.statement.fields := by
    refine not_besideTime fun x hx => ?_
    rcases List.mem_cons.1 hx with rfl | hx
    · exact apart_shifted (by decide)
    · split at hx
      · obtain rfl := List.mem_singleton.1 hx
        exact apart_shifted (Apart.append (Apart.append (by decide)))
      · simp at hx
  rw [Statement.mixes_iff_parts]
  simp only [hfields, false_or, not_or]
  simp [statement, Source.Mixes]

/-- The largest reading of an hour is no total over the window. -/
theorem not_mixes_stage (hf : f ∈ Family.all) (he : e ∈ f.catalog) : ¬(b.stage f id e).Mixes := by
  rw [Statement.mixes_iff_of_relation (r := f.table) rfl]
  rintro (⟨-, x, hx, htotal⟩ | ⟨t, ht, -⟩)
  · obtain rfl | rfl : x = ⟨.truncated .hour (.column timeColumn), timeColumn⟩ ∨
        x = ⟨.max e.expr, e.column⟩ := by simpa [stage, Family.scan, Statement.restrict] using hx
    · exact Field.not_isWindowTotal_of_apart (by decide) htotal
    · obtain ⟨g, hg, w, hw, hwindow, htext⟩ := htotal
      exact Family.max_ne_windowTotal f hf e he g hg w hw hwindow htext
  · simp [stage, Family.scan, Statement.restrict] at ht

theorem not_mixes_readings (hf : f ∈ Family.all) (hs : b.readings f ids q = .ok s) : ¬s.Mixes := by
  obtain ⟨hq, hd, -, rfl⟩ := readings_eq_ok_iff.1 hs
  rw [Statement.mixes_iff_of_relation (r := relation) rfl]
  rintro (hbeside | ⟨t, ht, hmixes⟩)
  · refine not_besideTime (fun x hx => ?_) hbeside
    rcases List.mem_cons.1 hx with rfl | hx
    · exact (by decide : Apart (Expr.ref relation timeColumn).text)
    · obtain ⟨id, -, rfl⟩ := List.mem_map.1 hx
      exact (((Family.apart_relation hf).append).append).append
  · rcases List.mem_cons.1 ht with rfl | ht
    · exact not_mixes_statement hmixes
    · obtain ⟨id, -, rfl⟩ := List.mem_map.1 ht
      exact not_mixes_stage hf (Family.catalogEntry_mem hd) hmixes

end Buckets

/-- The statements over the devices of one family with a row per instant. -/
inductive RowStatement (f : Family) : Statement → Prop
  | labelled {ids : List ℕ} {channels : List Channel} {s : Statement} :
    f.labelled ids channels = .ok s → RowStatement f s
  | each {ids : List ℕ} {qs : List Quantity} {s : Statement} :
    f.each ids qs = .ok s → RowStatement f s
  | total {ids : List ℕ} {q : Quantity} {s : Statement} : f.total ids q = .ok s → RowStatement f s
  | perDevice {ids : List ℕ} {qs : List Quantity} {a : Alignment} :
    f.perDevice ids qs = .ok a → RowStatement f a.statement
  | chosen {ids : List ℕ} {p : PerDevice} {s : Statement} :
    PerDevice.Chosen f ids p → p.statement = .ok s → RowStatement f s
  | combined {ids : List ℕ} {c : Combined} {s : Statement} :
    Combined.Built f ids c → c.statement = .ok s → RowStatement f s
  | readings {b : Buckets} {ids : List ℕ} {q : Quantity} {s : Statement} :
    b.readings f ids q = .ok s → RowStatement f s

/-- **No statement of one family selects a total over the window beside `time`.** -/
theorem RowStatement.not_mixes (hf : f ∈ Family.all) (h : RowStatement f s) : ¬s.Mixes := by
  cases h with
  | labelled hs => exact Family.not_mixes_labelled hf hs
  | each hs => exact Family.not_mixes_labelled hf hs
  | total hs => exact Family.not_mixes_total hf hs
  | perDevice ha => exact Family.not_mixes_perDevice hf ha
  | chosen hp hs =>
    obtain ⟨hfamily, hinstant⟩ := hp.instant
    obtain ⟨a, ha, rfl⟩ := PerDevice.statement_eq_ok_iff.1 hs
    exact PerDevice.not_mixes (hfamily ▸ hf) hinstant ha
  | combined hc hs =>
    obtain ⟨hfamily, hinstant⟩ := hc.instant hf
    exact Combined.not_mixes (hfamily ▸ hf) hinstant hs
  | readings hs => exact Buckets.not_mixes_readings hf hs

end

end EnergyQuery
