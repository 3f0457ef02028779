/-
  Totals over the window that a combination stages.

  A combination checks the quantities that it adds up: at an instant none of
  them is a total over the window, and over the window all of them are, and
  their counters are staged.  It does not check what is staged beside them, so
  that a total over the window can come to stand beside `time`.

  * `Combination.StagesWindowTotal`: a total over the window is staged beside
    what is added up;
  * `Combination.mixes_total_iff`, `mixes_windowTotal_iff`,
    `mixes_alignment_iff`: exactly then the statement mixes, unless it reads a
    single device directly;
  * `mixes_iff_stagesWindowTotal`: these, and the statements over one family.
-/
import EnergyQuery.Proofs.Query.BesideTime
import EnergyQuery.Proofs.Query.Combining

namespace EnergyQuery

open Sql

/-! ## Combinations -/

/-- What rows are staged with is no total over the window. -/
theorem Quantity.isWindowTotal_staged {q : Quantity} : q.staged.isWindowTotal = false := by
  unfold staged
  cases hc : q.counter with
  | none => simp [isWindowTotal, hc]
  | some c => exact isWindowTotal_counter hc

/-- A total over the window is staged only beside what is added up. -/
theorem Contribution.exists_windowTotal_staged_iff {t : Contribution} :
    (∃ q ∈ t.staged, q.isWindowTotal = true) ↔ ∃ q ∈ t.also, q.isWindowTotal = true := by
  constructor
  · rintro ⟨q, hq, hw⟩
    rcases List.mem_cons.1 hq with rfl | hq
    · simp [Quantity.isWindowTotal_staged] at hw
    · exact ⟨q, (List.mem_filter.1 hq).1, hw⟩
  · rintro ⟨q, hq, hw⟩
    refine ⟨q, List.mem_cons_of_mem _ (List.mem_filter.2 ⟨hq, ?_⟩), hw⟩
    have hne : q ≠ t.quantity.staged := by
      rintro rfl
      simp [Quantity.isWindowTotal_staged] at hw
    simpa using hne

namespace Combination
variable {c : Combination} {label : String} {s : Statement} {a : Alignment} {anchor : String}
  {others : List String}

/-- A total over the window is staged beside what some contribution adds up. -/
def StagesWindowTotal (c : Combination) : Prop :=
  ∃ t ∈ c.active, ∃ q ∈ t.also, q.isWindowTotal = true

section
variable (hf : ∀ t ∈ c.active, t.family ∈ Family.all) (hd : ∀ t ∈ c.active, t.Declares)
include hf

include hd in
theorem exists_mixes_staged_iff :
    (∃ t ∈ c.active.flatMap stagedOf, t.Mixes) ↔ c.StagesWindowTotal := by
  have hstaged {t : Contribution} (ht : t ∈ c.active) {id : ℕ} :
      (t.family.staged t.staged id).Mixes ↔ ∃ q ∈ t.also, q.isWindowTotal = true := by
    rw [Family.mixes_staged_iff (hf t ht) (hd t ht), Contribution.exists_windowTotal_staged_iff]
  constructor
  · rintro ⟨x, hx, hmixes⟩
    obtain ⟨t, ht, hx⟩ := List.mem_flatMap.1 hx
    obtain ⟨id, -, rfl⟩ := List.mem_map.1 hx
    exact ⟨t, ht, (hstaged ht).1 hmixes⟩
  · rintro ⟨t, ht, hq⟩
    obtain ⟨id, ids, hids⟩ := List.exists_cons_of_ne_nil (ids_ne_nil_of_mem_active ht)
    refine ⟨t.family.staged t.staged id, List.mem_flatMap.2 ⟨t, ht, ?_⟩, (hstaged ht).2 hq⟩
    exact List.mem_map_of_mem (hids ▸ List.mem_cons_self ..)

theorem apart_relations : ∀ r ∈ c.relations, Apart r := by
  intro r hr
  obtain ⟨t, ht, hr⟩ := List.mem_flatMap.1 hr
  obtain ⟨id, -, rfl⟩ := List.mem_map.1 hr
  exact Family.apart_relation (hf t ht)

include hd in
theorem mixes_aligned_iff {fields : List Sql.Field} (hr : c.relations = anchor :: others)
    (hfields : Computed fields) :
    ((c.aligned anchor others).compute fields).statement.Mixes ↔ c.StagesWindowTotal := by
  have hanchor : Apart anchor := apart_relations hf anchor (by simp [hr])
  rw [Alignment.mixes_statement_iff (a := (c.aligned anchor others).compute fields) hanchor hfields]
  exact exists_mixes_staged_iff hf hd

/-- The relations alone, without computed columns. -/
theorem mixes_alignment_iff (ha : c.alignment = .ok a) :
    a.statement.Mixes ↔ c.StagesWindowTotal := by
  obtain ⟨hd, anchor, others, hr, rfl⟩ := alignment_eq_ok_iff.1 ha
  have hnone : Computed [] := by simp [Computed]
  exact mixes_aligned_iff hf hd hr hnone

/-- The signed sum at an instant. -/
theorem mixes_total_iff (hs : c.total label = .ok s) :
    s.Mixes ↔ c.single? = none ∧ c.StagesWindowTotal := by
  cases hsingle : c.single? with
  | some p =>
    obtain ⟨hq, hd, rfl⟩ := (total_eq_ok_iff_of_single hsingle).1 hs
    have hfamily : p.1.family ∈ Family.all := hf p.1 (by simp [(single?_eq_some hsingle).1])
    refine iff_of_false (Family.not_mixes_scan fun x hx => ?_) (by simp)
    obtain rfl := List.mem_singleton.1 hx
    exact Family.apart_catalogEntry hfamily hd hq
  | none =>
    obtain ⟨hwd, anchor, others, hr, rfl⟩ := (total_eq_ok_iff hsingle).1 hs
    have hsum : Computed [⟨.signedSum ((c.summands (·.quantity)).map fun m =>
        (m.sign, .orZero m.expr)), c.columnName label⟩] := by
      intro x hx
      obtain rfl := List.mem_singleton.1 hx
      exact ⟨apart_signedSum_orZero (summands_ne_nil hr) fun m _ => ⟨_, _, rfl⟩, _, rfl⟩
    rw [mixes_aligned_iff hf (fun t ht => (hwd t ht).2) hr hsum]
    simp

/-- The signed sum of the totals over the window has no `time` of its own. -/
theorem mixes_windowTotal_iff (hs : c.windowTotal label = .ok s) :
    s.Mixes ↔ c.single? = none ∧ c.StagesWindowTotal := by
  cases hsingle : c.single? with
  | some p =>
    obtain ⟨-, -, rfl⟩ := (windowTotal_eq_ok_iff_of_single hsingle).1 hs
    refine iff_of_false ?_ (by simp)
    rw [Statement.mixes_iff_of_relation (r := p.1.family.table) rfl]
    rintro (hbeside | ⟨t, ht, -⟩)
    · exact not_besideTime_of_quoted hbeside
    · simp [Family.scan, Statement.inWindow, Statement.restrict] at ht
  | none =>
    obtain ⟨hwd, anchor, others, hr, rfl⟩ := (windowTotal_eq_ok_iff hsingle).1 hs
    rw [Statement.mixes_iff_of_relation (r := anchor) rfl]
    refine (or_iff_right fun h => not_besideTime_of_quoted h).trans ?_
    exact (exists_mixes_staged_iff hf fun t ht => (hwd t ht).2).trans (by simp)

end

end Combination

/-- **Where a total over the window is selected beside `time`.**  In no statement over one family,
    and in those of a combination exactly if such a total is staged beside what some contribution
    adds up, unless the sum is read directly from the table of a single device. -/
theorem mixes_iff_stagesWindowTotal {f : Family} {c : Combination} (hf : f ∈ Family.all)
    (hc : ∀ t ∈ c.active, t.family ∈ Family.all) :
    (∀ s, RowStatement f s → ¬s.Mixes) ∧
      (∀ label s, c.total label = .ok s ∨ c.windowTotal label = .ok s →
        (s.Mixes ↔ c.single? = none ∧ c.StagesWindowTotal)) ∧
      ∀ a, c.alignment = .ok a → (a.statement.Mixes ↔ c.StagesWindowTotal) := by
  refine ⟨fun s hs => hs.not_mixes hf, fun label s hs => ?_, fun a ha => ?_⟩
  · rcases hs with hs | hs
    · exact Combination.mixes_total_iff hc hs
    · exact Combination.mixes_windowTotal_iff hc hs
  · exact Combination.mixes_alignment_iff hc ha

/-- Two meters, with their energy over the window staged beside their power. -/
def meteredHouse : Combination where
  name := "house"
  contributions := [Contribution.beside ⟨.meter, [1, 2], .plus, .power, []⟩ .windowEnergy]

/-- Alone, the power of the meters is selected beside `time`; in the house, their energy is too. -/
theorem mixes_iff_stagesWindowTotal_meters :
    (∃ s, Family.meter.total [1, 2] .power = .ok s ∧ ¬s.Mixes) ∧
      (∃ s, meteredHouse.total "power_w" = .ok s ∧ s.Mixes) ∧
      ∃ a, meteredHouse.alignment = .ok a ∧ a.statement.Mixes := by
  have hmeter : Family.meter ∈ Family.all := by decide
  have hhouse : ∀ t ∈ meteredHouse.active, t.family ∈ Family.all := by decide
  have hstages : meteredHouse.StagesWindowTotal :=
    ⟨_, List.mem_singleton.2 rfl, .windowEnergy, List.mem_singleton.2 rfl, rfl⟩
  obtain ⟨hrow, hstatement, halignment⟩ := mixes_iff_stagesWindowTotal hmeter hhouse
  obtain ⟨s, hs⟩ : ∃ s, Family.meter.total [1, 2] .power = .ok s := ⟨_, rfl⟩
  exact ⟨⟨s, hs, hrow s (.total hs)⟩,
    ⟨_, rfl, (hstatement "power_w" _ (.inl rfl)).2 ⟨rfl, hstages⟩⟩,
    ⟨_, rfl, (halignment _ rfl).2 hstages⟩⟩

/-- The power of the two meters is added up in rows beside their energy over the window. -/
theorem windowEnergy_beside_time :
    ∃ s, meteredHouse.total "power_w" = .ok s ∧ s.Mixes := by
  have hf : ∀ t ∈ meteredHouse.active, t.family ∈ Family.all := by decide
  exact ⟨_, rfl, (Combination.mixes_total_iff hf rfl).2 ⟨rfl, _, List.mem_singleton.2 rfl,
    .windowEnergy, List.mem_singleton.2 rfl, rfl⟩⟩

end EnergyQuery
