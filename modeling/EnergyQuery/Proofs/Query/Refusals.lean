/-
  Which calls the statements of one family refuse, and with which fault.

  Every statement has a form for a single device and one for several, and each
  form does its own checks.  Statements with a row per instant check before the
  forms part.  Totals over the window look for the counter of their quantity,
  which only the form for several devices needs: that of a single device reads
  the quantity from the table, whatever it is.

  * `Family.total_eq_error_iff`, `Family.each_eq_error_iff`: statements with a
    row per instant;
  * `Family.windowEach_eq_error_iff`, `Family.windowTotal_eq_error_iff`: totals
    over the window;
  * `Family.refusals`: the four of them.
-/
import EnergyQuery.Proofs.Query.Spelling

namespace EnergyQuery

open Sql

/-! ## Failing checks -/

namespace Quantity
variable {q : Quantity}

theorem requireInstant_eq_error {builder : String} (h : q.isWindowTotal = true) :
    q.requireInstant builder = .error (.windowTotal builder q) :=
  if_pos h

theorem requireCounter_eq_error (h : q.isWindowTotal = false) :
    q.requireCounter = .error (.notWindowTotal none q) := by
  have hnone : q.counter = none := by simpa [isWindowTotal] using h
  rw [requireCounter, hnone]

end Quantity

/-! ## Statements of a family -/

namespace Family

section
variable {f : Family} {ids : List ℕ} {q : Quantity} {x : Fault}

/-- A composition that is spelled with whatever names and literals is a composition. -/
theorem exists_of_composes {y : Composed Statement}
    (h : Composes (fun _ => True) (fun _ => True) y) : ∃ s, y = .ok s := by
  obtain ⟨s, hs, -⟩ := h
  exact ⟨s, hs⟩

theorem requireIds_eq_ok {builder : String} (hids : ids ≠ []) : f.requireIds builder ids = .ok () :=
  requireIds_eq_ok_iff.2 hids

/-- The sum of all devices refuses totals over the window. -/
theorem total_eq_error_iff (hf : f ∈ all) (hd : f.Declares q) (hids : ids ≠ []) :
    f.total ids q = .error x ↔ q.isWindowTotal = true ∧ x = .windowTotal "query_sum" q := by
  refine Fallible.eq_error_iff (fun hw => ?_) fun hw => ?_
  · rw [total, requireIds_eq_ok hids, Quantity.requireInstant_eq_error hw]
    rfl
  · exact exists_of_composes (composes_total admits_all hf hids (by simpa using hw) hd)

/-- Columns of each device refuse totals over the window. -/
theorem each_eq_error_iff (hf : f ∈ all) (hd : f.Declares q) (hids : ids ≠ []) :
    f.each ids [q] = .error x ↔ q.isWindowTotal = true ∧ x = .windowTotal "query_labelled" q := by
  refine Fallible.eq_error_iff (fun hw => ?_) fun hw => ?_
  · have hchannel : [({ quantity := q } : Channel)].forM (·.quantity.requireInstant "query_labelled") =
        .error (.windowTotal "query_labelled" q) := by
      rw [List.forM_eq_forM, List.forM_cons, Quantity.requireInstant_eq_error hw]
      rfl
    rw [each, List.map_singleton]
    unfold labelled
    rw [requireIds_eq_ok hids, hchannel]
    rfl
  · exact exists_of_composes (composes_each admits_all hf hids (by simpa [hd] using hw))

/-- What looks for the counter of a quantity refuses a quantity without one. -/
theorem counter_eq_error {builder : String} {g : Entry → Quantity → Composed Statement}
    (hids : ids ≠ []) (hd : f.Declares q) (hw : q.isWindowTotal = false) :
    (do
      f.requireIds builder ids
      let e ← f.entry q
      let counter ← q.requireCounter
      g e counter : Composed Statement) = .error (.notWindowTotal none q) := by
  rw [requireIds_eq_ok hids, entry_eq_ok_iff.2 ⟨hd, rfl⟩, Quantity.requireCounter_eq_error hw]
  rfl

/-- A total over the window that is looked up for one device, and checked for several. -/
theorem eq_error_iff_of_several {g : List ℕ → Composed Statement} (hids : ids ≠ [])
    (hone : ∀ id, ∃ s, g [id] = .ok s)
    (hfail : 2 ≤ ids.length → q.isWindowTotal = false → g ids = .error (.notWindowTotal none q))
    (hok : q.isWindowTotal = true → ∃ s, g ids = .ok s) :
    g ids = .error x ↔ (q.isWindowTotal = false ∧ 2 ≤ ids.length) ∧ x = .notWindowTotal none q := by
  refine Fallible.eq_error_iff (fun h => hfail h.2 h.1) fun h => ?_
  match ids, hids with
  | [id], _ => exact hone id
  | i :: j :: rest, _ => exact hok (by simpa using h)

/-- Only of several devices does the total of each refuse what is no total over the window. -/
theorem windowEach_eq_error_iff (hf : f ∈ all) (hd : f.Declares q) (hids : ids ≠ []) :
    f.windowEach ids q = .error x ↔
      (q.isWindowTotal = false ∧ 2 ≤ ids.length) ∧ x = .notWindowTotal none q := by
  refine eq_error_iff_of_several (g := (f.windowEach · q)) hids (fun id => ?_) (fun hlen hw => ?_)
    fun hw => exists_of_composes (composes_windowEach admits_all hf hids hw hd)
  · exact ⟨_, windowEach_singleton_eq_ok_iff.2 ⟨hd, rfl⟩⟩
  · match ids, hlen with
    | i :: j :: rest, _ => exact counter_eq_error (by simp) hd hw

/-- Only of several devices does their total refuse what is no total over the window. -/
theorem windowTotal_eq_error_iff (hf : f ∈ all) (hd : f.Declares q) (hids : ids ≠ []) :
    f.windowTotal ids q = .error x ↔
      (q.isWindowTotal = false ∧ 2 ≤ ids.length) ∧ x = .notWindowTotal none q := by
  refine eq_error_iff_of_several (g := (f.windowTotal · q)) hids (fun id => ?_) (fun hlen hw => ?_)
    fun hw => exists_of_composes (composes_windowTotal admits_all hf hids hw hd)
  · exact ⟨_, windowTotal_singleton_eq_ok_iff.2 ⟨hd, rfl⟩⟩
  · match ids, hlen with
    | i :: j :: rest, _ => exact counter_eq_error (by simp) hd hw

end

/-- **What the statements of a family refuse.**  Statements with a row per instant refuse totals over
    the window, whatever the number of devices.  Totals over the window refuse all other quantities
    for several devices, and for a single device nothing. -/
theorem refusals (f : Family) (hf : f ∈ all) (q : Quantity) (hd : f.Declares q) (ids : List ℕ)
    (hids : ids ≠ []) (x : Fault) :
    (f.total ids q = .error x ↔ q.isWindowTotal = true ∧ x = .windowTotal "query_sum" q) ∧
      (f.each ids [q] = .error x ↔
        q.isWindowTotal = true ∧ x = .windowTotal "query_labelled" q) ∧
      (f.windowEach ids q = .error x ↔
        (q.isWindowTotal = false ∧ 2 ≤ ids.length) ∧ x = .notWindowTotal none q) ∧
      (f.windowTotal ids q = .error x ↔
        (q.isWindowTotal = false ∧ 2 ≤ ids.length) ∧ x = .notWindowTotal none q) :=
  ⟨total_eq_error_iff hf hd hids, each_eq_error_iff hf hd hids, windowEach_eq_error_iff hf hd hids,
    windowTotal_eq_error_iff hf hd hids⟩

theorem refusals_meters :
    meter.windowEach [4, 9] .power = .error (.notWindowTotal none .power) ∧
      (∀ x, meter.windowEach [4] .power ≠ .error x) ∧
      meter.total [4] .windowEnergy = .error (.windowTotal "query_sum" .windowEnergy) := by
  have hf : meter ∈ all := by decide
  have hpower : meter.Declares .power := by decide
  refine ⟨?_, fun x hx => ?_, ?_⟩
  · exact (refusals meter hf .power hpower [4, 9] (by decide) _).2.2.1.2 ⟨by decide, rfl⟩
  · obtain ⟨⟨-, hlen⟩, -⟩ := (refusals meter hf .power hpower [4] (by decide) x).2.2.1.1 hx
    simp at hlen
  · exact (refusals meter hf .windowEnergy (by decide) [4] (by decide) _).1.2 ⟨by decide, rfl⟩

/-- A quantity of an instant is accepted as a total over the window for one device, which reads its
    plain readings, and refused for two. -/
theorem instant_accepted_for_one_device :
    (solar.Declares .power ∧ Quantity.power.isWindowTotal = false) ∧
      ((solar.windowEach [1] .power).toOption.map Statement.render =
          some (.ok "SELECT power_w AS \"solar1.power_w\" FROM solar WHERE series_id = 1 AND $__timeFilter(time)") ∧
        solar.windowEach [1, 2] .power = .error (.notWindowTotal none .power)) ∧
      (solar.windowTotal [1] .power).toOption.map Statement.render =
          some (.ok "SELECT power_w AS \"solar.power_w\" FROM solar WHERE series_id = 1 AND $__timeFilter(time)") ∧
        solar.windowTotal [1, 2] .power = .error (.notWindowTotal none .power) :=
  ⟨by decide, ⟨by rfl, by rfl⟩, by rfl, by rfl⟩

end Family

end EnergyQuery
