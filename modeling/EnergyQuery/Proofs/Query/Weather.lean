/-
  The channels of a weather station.

  Labels belong to channels by position; a blank label hides its channel.

  * `Labels.numbered`: the labels that are shown, with their positions;
  * `labelledChannels_eq`, `map_channelLabel_labelledChannels`: these are the
    channels, and their labels are those that are shown;
  * `map_quantity_labelledChannels_congr`: which channels there are depends on
    the positions of the labels that are shown, not on the labels;
  * `composes_temperatures`: for accepted labels the statement can be composed.
-/
import EnergyQuery.Proofs.Device.Inventory
import EnergyQuery.Proofs.Query.Spelling

namespace EnergyQuery

open Sql

/-- The label at a position is there, and is not blank. -/
def Labels.shownAt (labels : List String) (i : ℕ) : Bool :=
  labels[i]?.any fun l => !(Text.trim l).isEmpty

/-! ## Numbered labels -/

/-- The labels that are shown, without the blanks around them, each with its position, counted from
    `n` on. -/
def Labels.numbered (n : ℕ) (labels : List String) : List (String × ℕ) :=
  ((labels.zipIdx n).map fun p => (Text.trim p.1, p.2)).filter fun p => p.1 ≠ ""

section
variable {n : ℕ} {l : String} {labels : List String}

theorem Labels.numbered_cons_of_blank (h : Text.trim l = "") :
    numbered n (l :: labels) = numbered (n + 1) labels := by
  simp [numbered, h]

theorem Labels.numbered_cons (h : Text.trim l ≠ "") :
    numbered n (l :: labels) = (Text.trim l, n) :: numbered (n + 1) labels := by
  simp [numbered, h]

/-- Positions are those of the list. -/
theorem Labels.position_of_mem_numbered {p : String × ℕ} (hp : p ∈ numbered n labels) :
    n ≤ p.2 ∧ p.2 < n + labels.length := by
  obtain ⟨q, hq, rfl⟩ := List.mem_map.1 (List.mem_of_mem_filter hp)
  exact ⟨List.le_snd_of_mem_zipIdx (x := q) hq, List.snd_lt_add_of_mem_zipIdx (x := q) hq⟩

theorem Labels.map_numbered : (numbered n labels).map (·.1) = shown labels := by
  induction labels generalizing n with
  | nil => rfl
  | cons l more ih =>
    by_cases hblank : Text.trim l = ""
    · rw [numbered_cons_of_blank hblank, shown_cons_of_blank (String.isEmpty_iff.2 hblank), ih]
    · rw [numbered_cons hblank, shown_cons (mt String.isEmpty_iff.1 hblank), List.map_cons, ih]

theorem Labels.nodup_positions : ((numbered n labels).map (·.2)).Nodup := by
  have hall : ((labels.zipIdx n).map fun p => (Text.trim p.1, p.2)).map (·.2) =
      List.range' n labels.length := by
    rw [List.map_map, ← List.zipIdx_map_snd]
    rfl
  refine List.Nodup.sublist (List.filter_sublist.map _) ?_
  rw [hall]
  exact List.nodup_range'

end

namespace Weather
variable {ids : List ℕ} {labels labels' : List String}

/-! ## Labelled channels -/

theorem labelledChannels_eq (n : ℕ) : labelledChannels n labels =
    (Labels.numbered n labels).map fun p => { quantity := .channel p.2, label := some p.1 } := by
  induction labels generalizing n with
  | nil => rfl
  | cons l more ih =>
    rw [labelledChannels, ih (n + 1)]
    by_cases hblank : Text.trim l = ""
    · rw [Labels.numbered_cons_of_blank hblank]
      simp [hblank]
    · rw [Labels.numbered_cons hblank]
      simp [hblank]

theorem map_channelLabel_labelledChannels (n : ℕ) :
    (labelledChannels n labels).map Family.weather.channelLabel = Labels.shown labels := by
  rw [labelledChannels_eq, ← Labels.map_numbered (n := n), List.map_map]
  rfl

theorem labelledChannels_eq_nil (h : ∀ i, Labels.shownAt labels i = false) (n : ℕ) :
    labelledChannels n labels = [] := by
  induction labels generalizing n with
  | nil => rfl
  | cons l more ih =>
    have hblank : (Text.trim l).isEmpty = true := by simpa [Labels.shownAt] using h 0
    rw [labelledChannels]
    simpa [hblank] using ih (fun i => by simpa [Labels.shownAt] using h (i + 1)) (n + 1)

/-- **Which channels are shown is told by the positions of the labels.** -/
theorem map_quantity_labelledChannels_congr
    (h : ∀ i, Labels.shownAt labels i = Labels.shownAt labels' i) (n : ℕ) :
    (labelledChannels n labels).map (·.quantity) =
      (labelledChannels n labels').map (·.quantity) := by
  induction labels generalizing labels' n with
  | nil => rw [labelledChannels_eq_nil (fun i => (h i).symm.trans rfl), labelledChannels]
  | cons l more ih =>
    cases labels' with
    | nil => rw [labelledChannels_eq_nil (fun i => (h i).trans rfl), labelledChannels]
    | cons l' more' =>
      have hhead : (Text.trim l).isEmpty = (Text.trim l').isEmpty := by
        simpa [Labels.shownAt] using h 0
      have hmore : ∀ i, Labels.shownAt more i = Labels.shownAt more' i :=
        fun i => by simpa [Labels.shownAt] using h (i + 1)
      rw [labelledChannels, labelledChannels]
      by_cases hblank : (Text.trim l').isEmpty = true
      · simpa [hhead, hblank] using ih hmore (n + 1)
      · simpa [hhead, hblank] using ih hmore (n + 1)

/-- A labelled channel carries a label that is shown, and is one of the first. -/
theorem mem_labelledChannels {n : ℕ} {c : Channel} (hc : c ∈ labelledChannels n labels) :
    (∃ k, n ≤ k ∧ k < n + labels.length ∧ c.quantity = .channel k) ∧
      ∃ l ∈ Labels.shown labels, c.label = some l := by
  rw [labelledChannels_eq] at hc
  obtain ⟨p, hp, rfl⟩ := List.mem_map.1 hc
  obtain ⟨hle, hlt⟩ := Labels.position_of_mem_numbered hp
  rw [← Labels.map_numbered (n := n)]
  exact ⟨⟨p.2, hle, hlt, rfl⟩, p.1, List.mem_map_of_mem hp, rfl⟩

theorem declares_channel :
    ∀ k, 1 ≤ k → k < 1 + channelCount → Family.weather.Declares (.channel k) := by
  intro k hle hlt
  have hall : ∀ i < channelCount, Family.weather.Declares (.channel (1 + i)) := by decide
  obtain ⟨i, rfl⟩ := Nat.exists_eq_add_of_le hle
  exact hall i (by omega)

/-- The channels of accepted labels are channels of the station, and their labels are those that are
    shown. -/
theorem channel_of_check (h : Labels.check labels = .ok ()) : ∀ c ∈ channels labels,
    (c.quantity.isWindowTotal = false ∧ Family.weather.Declares c.quantity) ∧
      Family.weather.channelLabel c ∈ "temp_c" :: Labels.shown labels := by
  intro c hc
  rcases List.mem_cons.1 hc with rfl | hc
  · exact ⟨by decide, List.mem_cons_self⟩
  · obtain ⟨⟨k, hle, hlt, hk⟩, l, hl, hlabel⟩ := mem_labelledChannels hc
    have hlength := (Labels.check_eq_ok_iff.1 h).1
    rw [hk, Family.channelLabel, hlabel]
    exact ⟨⟨rfl, declares_channel k hle (by omega)⟩, List.mem_cons_of_mem _ hl⟩

theorem map_channelLabel_channels :
    (channels labels).map Family.weather.channelLabel = "temp_c" :: Labels.shown labels := by
  rw [channels, List.map_cons, map_channelLabel_labelledChannels]
  rfl

/-- The labels of the channels are distinct, and differ from the outdoor temperature. -/
theorem nodup_channelLabel (h : Labels.check labels = .ok ()) :
    ((channels labels).map Family.weather.channelLabel).Nodup := by
  have htemperature : Family.weather.Declares .temperature := by decide
  rw [map_channelLabel_channels, List.nodup_cons]
  refine ⟨fun hmem => ?_, Labels.nodup_shown h⟩
  exact Labels.not_reserved_of_mem_shown h hmem _ (Family.catalogEntry_mem htemperature) rfl

/-! ## Temperatures -/

section
variable {N L : String → Prop}

/-- **The channels of accepted labels**, if the names of their columns are admitted. -/
theorem composes_temperatures (hids : ids ≠ []) (h : Labels.check labels = .ok ())
    (hn : ∀ id ∈ ids, ∀ l ∈ "temp_c" :: Labels.shown labels,
      N (Family.weather.relation id ++ "." ++ l)) : Composes N L (temperatures ids labels) := by
  rw [temperatures, h]
  exact Family.composes_labelled (by decide) hids (fun c hc => (channel_of_check h c hc).1)
    fun id hid c hc => hn id hid _ (channel_of_check h c hc).2

/-- Labels that are not accepted are the fault that is reported. -/
theorem temperatures_eq_error {f : LabelFault} (h : Labels.check labels = .error f) :
    temperatures ids labels = .error (.labels f) := by
  rw [temperatures, h]

end

end Weather

end EnergyQuery
