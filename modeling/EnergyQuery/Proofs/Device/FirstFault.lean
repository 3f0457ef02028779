/-
  Which fault of an inventory is reported.

  Faults are looked for from the left: in the labels, then in one family after
  the other, and in each of them device by device.  Whether a member is at fault
  may depend on those before it.

  * `FirstFound P l b`: what `P` finds at the first member of a list where it
    finds anything;
  * `Labels.Faulty`, `Repeated`: what is wrong with a label behind others, and
    with a device behind others;
  * `scan_eq_error_iff`, `firstRepeated_eq_some_iff`, `checkLists_eq_error_iff`:
    the searches, which carry along what they have seen, report the first fault;
  * `check_exact`: which inventories are accepted, and what is reported of the
    others.
-/
import EnergyQuery.Proofs.Device.Inventory
import Mathlib.Data.List.Infix

namespace EnergyQuery

/-! ## The first of a list -/

/-- `b` is what `P` finds at the first member of the list where it finds anything.  At each member
    it is given the members before it. -/
def FirstFound {α β : Type} (P : List α → α → β → Prop) (l : List α) (b : β) : Prop :=
  ∃ i x, l[i]? = some x ∧ P (l.take i) x b ∧ ∀ j < i, ∀ y, l[j]? = some y → ∀ c, ¬P (l.take j) y c

namespace FirstFound

variable {α β : Type} {P Q : List α → α → β → Prop} {x : α} {l : List α} {b : β}

theorem congr (h : ∀ before x c, P before x c ↔ Q before x c) :
    FirstFound P l b ↔ FirstFound Q l b := by
  obtain rfl : P = Q := funext fun before => funext fun x => funext fun c => propext (h before x c)
  rfl

theorem not_nil : ¬FirstFound P [] b := by
  rintro ⟨i, x, hx, -⟩
  simp at hx

/-- The first member is looked at first, and stands before all others. -/
theorem cons_iff : FirstFound P (x :: l) b ↔
    P [] x b ∨ (∀ c, ¬P [] x c) ∧ FirstFound (fun before => P (x :: before)) l b := by
  constructor
  · rintro ⟨i, y, hy, hfound, hbefore⟩
    cases i with
    | zero =>
      obtain rfl : x = y := by simpa using hy
      exact .inl hfound
    | succ i =>
      refine .inr ⟨hbefore 0 (Nat.succ_pos i) x rfl, i, y, by simpa using hy, hfound, ?_⟩
      exact fun j hj z hz => hbefore (j + 1) (Nat.succ_lt_succ hj) z (by simpa using hz)
  · rintro (hfound | ⟨hnone, i, y, hy, hfound, hbefore⟩)
    · exact ⟨0, x, rfl, hfound, by simp⟩
    · refine ⟨i + 1, y, by simpa using hy, hfound, fun j hj z hz => ?_⟩
      cases j with
      | zero =>
        obtain rfl : x = z := by simpa using hz
        exact hnone
      | succ j => exact hbefore j (Nat.lt_of_succ_lt_succ hj) z (by simpa using hz)

/-- Where the first member is at fault, it alone is reported. -/
theorem cons_iff_of_pos {c : β} (h : P [] x c) (hunique : ∀ c', P [] x c' → c' = c) :
    FirstFound P (x :: l) b ↔ b = c := by
  rw [cons_iff]
  constructor
  · rintro (hb | ⟨hnone, -⟩)
    · exact hunique b hb
    · exact absurd h (hnone c)
  · rintro rfl
    exact .inl h

theorem cons_iff_of_neg (h : ∀ c, ¬P [] x c) :
    FirstFound P (x :: l) b ↔ FirstFound (fun before => P (x :: before)) l b := by
  rw [cons_iff, or_iff_right (h b), and_iff_right h]

end FirstFound

/-! ## Devices -/

/-- The device stands already before, which is reported by its number. -/
def Repeated (before : List ℕ) (id reported : ℕ) : Prop :=
  id ∈ before ∧ reported = id

theorem firstRepeated_eq_some_iff {seen ids : List ℕ} {id : ℕ} :
    firstRepeated seen ids = some id ↔
      FirstFound (fun before => Repeated (seen ++ before)) ids id := by
  induction ids generalizing seen with
  | nil => simp [firstRepeated, FirstFound.not_nil]
  | cons i ids ih =>
    rw [firstRepeated]
    by_cases hseen : i ∈ seen
    · rw [if_pos (List.contains_iff_mem.2 hseen),
        FirstFound.cons_iff_of_pos ⟨List.mem_append_left [] hseen, rfl⟩ fun _ h => h.2,
        Option.some.injEq, eq_comm]
    · have hnone : ∀ c, ¬Repeated (seen ++ []) i c := fun c h => hseen (by simpa using h.1)
      rw [if_neg (mt List.contains_iff_mem.1 hseen), FirstFound.cons_iff_of_neg hnone, ih]
      exact FirstFound.congr fun before j c => and_congr_left fun _ => List.perm_middle.symm.mem_iff

namespace Devices

/-- The family lists a device twice, which is reported with its key and its first such device. -/
def ListsTwice (p : String × List ℕ) (f : DeviceFault) : Prop :=
  ∃ id, FirstFound Repeated p.2 id ∧ f = .repeated p.1 id

theorem checkLists_eq_error_iff {lists : List (String × List ℕ)} {f : DeviceFault} :
    checkLists lists = .error f ↔ FirstFound (fun _ => ListsTwice) lists f := by
  induction lists with
  | nil => simp [checkLists, FirstFound.not_nil]
  | cons p lists ih =>
    obtain ⟨key, ids⟩ := p
    have hfirst (id : ℕ) : firstRepeated [] ids = some id ↔ FirstFound Repeated ids id :=
      firstRepeated_eq_some_iff
    rw [checkLists]
    cases hids : firstRepeated [] ids with
    | some id =>
      have hunique : ∀ c, ListsTwice (key, ids) c → c = .repeated key id := by
        rintro _ ⟨i, hi, rfl⟩
        obtain rfl : id = i := Option.some.inj (hids.symm.trans ((hfirst i).2 hi))
        rfl
      rw [FirstFound.cons_iff_of_pos ⟨id, (hfirst id).1 hids, rfl⟩ hunique, Except.error.injEq,
        eq_comm]
    | none =>
      have hnone : ∀ c, ¬ListsTwice (key, ids) c := by
        rintro c ⟨id, hid, -⟩
        simp [(hfirst id).2 hid] at hids
      rw [FirstFound.cons_iff_of_neg hnone]
      exact ih

end Devices

/-! ## Labels -/

theorem hasPlaceholderMark_iff {s : List Char} :
    hasPlaceholderMark s = true ↔ placeholderMark <:+: s := by
  induction s with
  | nil => simp [hasPlaceholderMark, placeholderMark]
  | cons c s ih =>
    rw [hasPlaceholderMark, Bool.or_eq_true, List.isPrefixOf_iff_prefix, ih, List.infix_cons_iff]

namespace Labels

/-- The label is a column of the station. -/
def Reserved (label : String) : Prop :=
  ∃ e ∈ Family.weather.catalog, e.column = label

/-- The start of a placeholder stands in the label. -/
def Marked (label : String) : Prop :=
  "$__".toList <:+: label.toList

/-- What is wrong with a label, given the labels `known` that are shown before it.  A placeholder
    is reported before a column of the station, and that before a repetition. -/
inductive Faulty (known : List String) (label : String) : LabelFault → Prop
  | placeholder : Marked label → Faulty known label (.placeholder label)
  | reserved : ¬Marked label → Reserved label → Faulty known label (.reserved label)
  | duplicate : ¬Marked label → ¬Reserved label → label ∈ known →
    Faulty known label (.duplicate label)

/-- What is wrong with a label as it is given, behind the labels `before`: blanks around a label do
    not count, and nothing is wrong with a blank one. -/
def FaultyBehind (before : List String) (l : String) (f : LabelFault) : Prop :=
  Text.trim l ≠ "" ∧ Faulty (shown before) (Text.trim l) f

section
variable {seen labels known known' : List String} {label : String} {f g : LabelFault}

theorem Faulty.unique (hf : Faulty known label f) (hg : Faulty known label g) : f = g := by
  cases hf <;> cases hg <;> first | rfl | contradiction

theorem Faulty.congr (h : ∀ l, l ∈ known ↔ l ∈ known') :
    Faulty known label f ↔ Faulty known' label f := by
  have himp {known known' : List String} (h : ∀ l, l ∈ known → l ∈ known')
      (hf : Faulty known label f) : Faulty known' label f := by
    cases hf with
    | placeholder hm => exact .placeholder hm
    | reserved hm hr => exact .reserved hm hr
    | duplicate hm hr hk => exact .duplicate hm hr (h label hk)
  exact ⟨himp fun l => (h l).1, himp fun l => (h l).2⟩

theorem reserved_iff : Family.weather.catalog.any (·.column == label) = true ↔ Reserved label := by
  simp only [List.any_eq_true, beq_iff_eq, Reserved]

theorem scan_cons_of_blank {l : String} (h : Text.trim l = "") :
    scan seen (l :: labels) = scan seen labels := by
  rw [scan, if_pos (String.isEmpty_iff.2 h)]

theorem scan_cons_of_faulty {l : String} (h : Text.trim l ≠ "") (hf : Faulty seen (Text.trim l) f) :
    scan seen (l :: labels) = .error f := by
  rw [scan, if_neg (mt String.isEmpty_iff.1 h)]
  cases hf with
  | placeholder hm => rw [if_pos (hasPlaceholderMark_iff.2 hm)]
  | reserved hm hr => rw [if_neg (mt hasPlaceholderMark_iff.1 hm), if_pos (reserved_iff.2 hr)]
  | duplicate hm hr hk =>
    rw [if_neg (mt hasPlaceholderMark_iff.1 hm), if_neg (mt reserved_iff.1 hr),
      if_pos (List.contains_iff_mem.2 hk)]

theorem scan_cons_of_sound {l : String} (h : Text.trim l ≠ "")
    (hsound : ∀ f, ¬Faulty seen (Text.trim l) f) :
    scan seen (l :: labels) = scan (Text.trim l :: seen) labels := by
  have hm : ¬Marked (Text.trim l) := fun hm => hsound _ (.placeholder hm)
  have hr : ¬Reserved (Text.trim l) := fun hr => hsound _ (.reserved hm hr)
  have hk : Text.trim l ∉ seen := fun hk => hsound _ (.duplicate hm hr hk)
  rw [scan, if_neg (mt String.isEmpty_iff.1 h), if_neg (mt hasPlaceholderMark_iff.1 hm),
    if_neg (mt reserved_iff.1 hr), if_neg (mt List.contains_iff_mem.1 hk)]

/-- A label that is not shown changes nothing for those behind it, one that is shown is known to
    them. -/
theorem scan_eq_error_iff : scan seen labels = .error f ↔
    FirstFound (fun before l g => Text.trim l ≠ "" ∧ Faulty (seen ++ shown before) (Text.trim l) g)
      labels f := by
  induction labels generalizing seen with
  | nil => simp [scan, FirstFound.not_nil]
  | cons l more ih =>
    have hknown : seen ++ shown [] = seen := List.append_nil seen
    by_cases hblank : Text.trim l = ""
    · rw [scan_cons_of_blank hblank, ih, FirstFound.cons_iff_of_neg fun c h => h.1 hblank]
      refine FirstFound.congr fun before l' g => ?_
      rw [shown_cons_of_blank (String.isEmpty_iff.2 hblank)]
    -- A faulty label ends the scan; a sound one is seen from then on.
    by_cases hfaulty : ∃ g, Faulty seen (Text.trim l) g
    · obtain ⟨g, hg⟩ := hfaulty
      rw [scan_cons_of_faulty hblank hg, Except.error.injEq, eq_comm]
      rw [← hknown] at hg
      exact (FirstFound.cons_iff_of_pos ⟨hblank, hg⟩ fun c h => h.2.unique hg).symm
    · have hsound : ∀ g, ¬Faulty seen (Text.trim l) g := not_exists.1 hfaulty
      rw [scan_cons_of_sound hblank hsound, ih, FirstFound.cons_iff_of_neg]
      · refine FirstFound.congr fun before l' g => and_congr_right fun _ => Faulty.congr fun k => ?_
        rw [shown_cons (mt String.isEmpty_iff.1 hblank)]
        exact List.perm_middle.symm.mem_iff
      · rintro c ⟨-, hc⟩
        rw [hknown] at hc
        exact hsound c hc

/-- What is asked of a label that is shown, whatever the others are. -/
theorem sound_iff : hasPlaceholderMark label.toList = false ∧
    (∀ e ∈ Family.weather.catalog, e.column ≠ label) ↔ ¬Reserved label ∧ ¬Marked label := by
  rw [and_comm, Reserved, not_exists, Marked, ← Bool.not_eq_true, hasPlaceholderMark_iff]
  simp only [not_and]
  rfl

/-- **The leftmost faulty label is reported**, unless there are too many labels. -/
theorem check_eq_error_iff (h : labels.length ≤ channelCount) :
    check labels = .error f ↔ FirstFound FaultyBehind labels f := by
  rw [check, if_neg (Nat.not_lt.2 h), scan_eq_error_iff]
  rfl

end

end Labels

/-! ## Inventories -/

namespace Devices
variable {d : Devices} {f : DeviceFault}

theorem checkLabels_eq_error_iff {labels : List String} : checkLabels labels = .error f ↔
    7 < labels.length ∧ f = .tooManyLabels labels.length ∨
      labels.length ≤ 7 ∧ ∃ g, FirstFound Labels.FaultyBehind labels g ∧ f = .labels g := by
  rw [checkLabels]
  split
  · next hmany =>
    have hmany : 7 < labels.length := hmany
    rw [and_iff_right hmany, Except.error.injEq, eq_comm, iff_self_or]
    exact fun h => absurd h.1 (Nat.not_le.2 hmany)
  · next hfew =>
    have hle : labels.length ≤ 7 := Nat.not_lt.1 hfew
    rw [Fallible.mapError_eq_error, and_iff_right hle, or_iff_right fun h => hfew h.1]
    refine exists_congr fun g => and_congr (Labels.check_eq_error_iff hle) eq_comm

theorem checkLabels_eq_ok_iff_not_found {labels : List String} : checkLabels labels = .ok () ↔
    labels.length ≤ 7 ∧ ¬∃ g, FirstFound Labels.FaultyBehind labels g := by
  simp only [Fallible.eq_ok_iff, ne_eq, checkLabels_eq_error_iff]
  constructor
  · intro h
    exact ⟨Nat.not_lt.1 fun hmany => h _ (.inl ⟨hmany, rfl⟩), fun ⟨g, hg⟩ =>
      h _ (.inr ⟨Nat.not_lt.1 fun hmany => h _ (.inl ⟨hmany, rfl⟩), g, hg, rfl⟩)⟩
  · rintro ⟨hle, hnone⟩ f (⟨hmany, -⟩ | ⟨-, g, hg, -⟩)
    · exact Nat.not_lt.2 hle hmany
    · exact hnone ⟨g, hg⟩

/-- **Exactly the sound inventories are accepted, and of the others the first fault is reported.**
    An inventory is sound if it has at most seven labels, if those that are not blank are distinct,
    no columns of the station and free of placeholders, and if no family lists a device twice.  Of
    the others the number of labels is reported first, then the leftmost faulty label, then the
    first family that lists a device twice, with the first device that stands already before. -/
theorem check_exact (d : Devices) :
    (d.check = .ok () ↔
      d.weatherLabels.length ≤ 7 ∧ (Labels.shown d.weatherLabels).Nodup ∧
        (∀ l ∈ Labels.shown d.weatherLabels, ¬Labels.Reserved l ∧ ¬Labels.Marked l) ∧
        ∀ p ∈ d.lists, p.2.Nodup) ∧
    ∀ f, d.check = .error f ↔
      (7 < d.weatherLabels.length ∧ f = .tooManyLabels d.weatherLabels.length) ∨
      (d.weatherLabels.length ≤ 7 ∧
        ∃ g, FirstFound Labels.FaultyBehind d.weatherLabels g ∧ f = .labels g) ∨
      (d.weatherLabels.length ≤ 7 ∧ (¬∃ g, FirstFound Labels.FaultyBehind d.weatherLabels g) ∧
        FirstFound (fun _ => ListsTwice) d.lists f) := by
  constructor
  · have hcount : channelCount = 7 := rfl
    simp only [check_eq_ok_iff, Labels.check_eq_ok_iff, Labels.sound_iff, hcount, and_assoc]
  · intro f
    rw [check, Fallible.bind_eq_error, checkLabels_eq_error_iff, or_assoc]
    refine or_congr_right (or_congr_right ?_)
    constructor
    · rintro ⟨_, hlabels, hlists⟩
      obtain ⟨hle, hnone⟩ := checkLabels_eq_ok_iff_not_found.1 hlabels
      exact ⟨hle, hnone, checkLists_eq_error_iff.1 hlists⟩
    · rintro ⟨hle, hnone, hlists⟩
      exact ⟨(), checkLabels_eq_ok_iff_not_found.2 ⟨hle, hnone⟩, checkLists_eq_error_iff.2 hlists⟩

/-- Labels come before devices, and blanks neither count nor tell labels apart. -/
example : Devices.check { solars := [1, 1], weatherLabels := ["attic", " ", "", " attic", "$__"] } =
    .error (.labels (.duplicate "attic")) := by
  decide

end Devices

end EnergyQuery
