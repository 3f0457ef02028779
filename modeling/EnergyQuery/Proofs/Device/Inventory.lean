/-
  What an accepted inventory is known to hold.

  * `Devices.nodup_of_check`, `Devices.labels_of_check`: no family lists a device
    twice, and the labels of the weather channels are accepted;
  * `Labels.nodup_shown`, `Labels.not_reserved_of_mem_shown`,
    `Labels.unmarked_of_mem_shown`: the labels of the weather channels that are
    shown are distinct, no column of the station, and free of placeholders.
-/
import EnergyQuery.Device.Inventory
import EnergyQuery.Proofs.Fallible
import Mathlib.Data.List.Nodup

namespace EnergyQuery

/-! ## Devices -/

theorem firstRepeated_eq_none_iff {seen ids : List Nat} :
    firstRepeated seen ids = none ↔ ids.Nodup ∧ ∀ id ∈ ids, id ∉ seen := by
  induction ids generalizing seen with
  | nil => simp [firstRepeated]
  | cons id ids ih =>
    rw [firstRepeated]
    by_cases h : id ∈ seen
    · simp [h]
    · simp only [List.contains_iff_mem, h, if_false, ih, List.nodup_cons, List.forall_mem_cons,
        not_false_eq_true, true_and]
      constructor
      · rintro ⟨hn, hall⟩
        exact ⟨⟨fun hid => hall id hid (by simp), hn⟩, fun i hi his => hall i hi (by simp [his])⟩
      · rintro ⟨⟨hid, hn⟩, hall⟩
        refine ⟨hn, fun i hi his => ?_⟩
        rcases List.mem_cons.1 his with rfl | his
        · exact hid hi
        · exact hall i hi his

namespace Devices
variable {d : Devices}

theorem checkLists_eq_ok_iff {lists : List (String × List Nat)} :
    checkLists lists = .ok () ↔ ∀ p ∈ lists, p.2.Nodup := by
  induction lists with
  | nil => simp [checkLists]
  | cons p lists ih =>
    obtain ⟨key, ids⟩ := p
    have hnodup : firstRepeated [] ids = none ↔ ids.Nodup := by simp [firstRepeated_eq_none_iff]
    rw [checkLists, List.forall_mem_cons]
    cases hfirst : firstRepeated [] ids with
    | none => rw [ih, and_iff_right (hnodup.1 hfirst)]
    | some id =>
      have hnot : ¬ids.Nodup := fun h => by simp [hnodup.2 h] at hfirst
      simp [hnot]

theorem checkLabels_eq_ok_iff {labels : List String} :
    checkLabels labels = .ok () ↔ Labels.check labels = .ok () := by
  rw [checkLabels]
  split
  · next hmany => simp [Labels.check, hmany]
  · exact Fallible.mapError_eq_ok

theorem check_eq_ok_iff :
    d.check = .ok () ↔ Labels.check d.weatherLabels = .ok () ∧ ∀ p ∈ d.lists, p.2.Nodup := by
  rw [check, Fallible.bind_unit_eq_ok checkLabels_eq_ok_iff, checkLists_eq_ok_iff]

/-- **No family of an accepted inventory lists a device twice.** -/
theorem nodup_of_check (h : d.check = .ok ()) : ∀ p ∈ d.lists, p.2.Nodup :=
  (check_eq_ok_iff.1 h).2

/-- **The labels of an accepted inventory are accepted.** -/
theorem labels_of_check (h : d.check = .ok ()) : Labels.check d.weatherLabels = .ok () :=
  (check_eq_ok_iff.1 h).1

end Devices

/-! ## Labels -/

namespace Labels
variable {labels seen : List String}

/-- The labels that are shown, without the blanks around them. -/
def shown (labels : List String) : List String :=
  (labels.map Text.trim).filter (!·.isEmpty)

theorem shown_cons_of_blank {l : String} (h : (Text.trim l).isEmpty = true) :
    shown (l :: labels) = shown labels := by
  simp [shown, h]

theorem shown_cons {l : String} (h : ¬(Text.trim l).isEmpty = true) :
    shown (l :: labels) = Text.trim l :: shown labels := by
  simp [shown, h]

theorem scan_eq_ok_iff : scan seen labels = .ok () ↔
    (shown labels).Nodup ∧ ∀ l ∈ shown labels, l ∉ seen ∧
      hasPlaceholderMark l.toList = false ∧ ∀ e ∈ Family.weather.catalog, e.column ≠ l := by
  -- The labels found good so far are carried along, hence the induction is for any of them.
  induction labels generalizing seen with
  | nil => simp [scan, shown]
  | cons l more ih =>
    rw [scan]
    by_cases hblank : (Text.trim l).isEmpty = true
    · rw [if_pos hblank, shown_cons_of_blank hblank]
      exact ih
    · rw [if_neg hblank, shown_cons hblank, List.nodup_cons, List.forall_mem_cons]
      split
      · next hmark => simp [hmark]
      split
      · next hreserved =>
        have hnot : ¬∀ e ∈ Family.weather.catalog, e.column ≠ Text.trim l := by
          simpa using hreserved
        simp [hnot]
      split
      · next hseen => simp [List.contains_iff_mem.1 hseen]
      next hmark hreserved hseen =>
      have hhead : Text.trim l ∉ seen ∧ hasPlaceholderMark (Text.trim l).toList = false ∧
          ∀ e ∈ Family.weather.catalog, e.column ≠ Text.trim l :=
        ⟨by simpa using hseen, by simpa using hmark, by simpa using hreserved⟩
      rw [ih, and_iff_right hhead]
      constructor
      · rintro ⟨hn, hall⟩
        exact ⟨⟨fun hl => (hall _ hl).1 (by simp), hn⟩,
          fun k hk => ⟨fun hks => (hall k hk).1 (by simp [hks]), (hall k hk).2⟩⟩
      · rintro ⟨⟨hl, hn⟩, hall⟩
        refine ⟨hn, fun k hk => ⟨?_, (hall k hk).2⟩⟩
        rw [List.mem_cons, not_or]
        exact ⟨fun hkl => hl (hkl ▸ hk), (hall k hk).1⟩

theorem check_eq_ok_iff : check labels = .ok () ↔
    labels.length ≤ channelCount ∧ (shown labels).Nodup ∧ ∀ l ∈ shown labels,
      hasPlaceholderMark l.toList = false ∧ ∀ e ∈ Family.weather.catalog, e.column ≠ l := by
  rw [check]
  split
  · next hmany => simp [Nat.not_le.2 hmany]
  · next hfew => simp [scan_eq_ok_iff, Nat.not_lt.1 hfew]

/-- **Accepted labels are distinct.** -/
theorem nodup_shown (h : check labels = .ok ()) : (shown labels).Nodup :=
  (check_eq_ok_iff.1 h).2.1

/-- **No accepted label is a column of the station.** -/
theorem not_reserved_of_mem_shown (h : check labels = .ok ()) {l : String} (hl : l ∈ shown labels) :
    ∀ e ∈ Family.weather.catalog, e.column ≠ l :=
  ((check_eq_ok_iff.1 h).2.2 l hl).2

/-- **No accepted label holds the start of a placeholder.** -/
theorem unmarked_of_mem_shown (h : check labels = .ok ()) {l : String} (hl : l ∈ shown labels) :
    hasPlaceholderMark l.toList = false :=
  ((check_eq_ok_iff.1 h).2.2 l hl).1

end Labels

end EnergyQuery
