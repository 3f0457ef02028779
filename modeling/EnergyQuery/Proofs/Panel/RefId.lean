/-
  The names of targets are a bijective numbering.

  Read in base 26, with the letters as the digits 1 to 26, a name has a value.
  As no digit is zero, the names of one length take up an interval of values,
  and the intervals of all lengths lie next to each other.

  * `value` is the value of letters; `value_letters` and `letters_value`: writing
    and reading undo each other;
  * `least k` is the smallest value of `k` letters; `value_bounds`: the others
    lie below the smallest value of `k + 1` letters;
  * `value_lt_of_shortlex`: shorter names come first, and among those of one
    length the first letter in which they differ decides;
  * `bijective_numbering`: all of it, for the positions and for the targets of a
    panel.
-/
import EnergyQuery.Panel.Target
import EnergyQuery.Proofs.Fallible
import Mathlib.Data.List.Induction
import Mathlib.Data.List.Nodup
import Mathlib.Data.List.Shortlex
import Mathlib.Tactic.Ring

namespace EnergyQuery

namespace RefId

/-! ## Values -/

/-- One of the letters `A` to `Z`. -/
def IsLetter (c : Char) : Prop :=
  'A' ≤ c ∧ c ≤ 'Z'

instance {c : Char} : Decidable (IsLetter c) :=
  inferInstanceAs (Decidable (_ ∧ _))

/-- The digit that a letter stands for: one for `A`, 26 for `Z`. -/
def digit (c : Char) : ℕ :=
  c.toNat - 'A'.toNat + 1

/-- The value of letters in base 26, the most significant one first. -/
def value (s : List Char) : ℕ :=
  s.foldl (fun v c => 26 * v + digit c) 0

section
variable {c c' : Char} {s t : List Char} {d n : ℕ}

theorem isLetter_letter (h : d < 26) : IsLetter (letter d) := by
  have hall : ∀ d < 26, IsLetter (letter d) := by decide
  exact hall d h

theorem digit_letter (h : d < 26) : digit (letter d) = d + 1 := by
  have hall : ∀ d < 26, digit (letter d) = d + 1 := by decide
  exact hall d h

theorem IsLetter.toNat_bounds (h : IsLetter c) : 'A'.toNat ≤ c.toNat ∧ c.toNat ≤ 'Z'.toNat :=
  ⟨UInt32.le_iff_toNat_le.1 h.1, UInt32.le_iff_toNat_le.1 h.2⟩

theorem IsLetter.digit_bounds (h : IsLetter c) : 1 ≤ digit c ∧ digit c ≤ 26 := by
  obtain ⟨hlow, hhigh⟩ := h.toNat_bounds
  simp only [digit, Char.reduceToNat] at hlow hhigh ⊢
  omega

theorem IsLetter.letter_digit (h : IsLetter c) : letter (digit c - 1) = c := by
  have hsum : 'A'.toNat + (digit c - 1) = c.toNat := by
    have hlow := h.toNat_bounds.1
    rw [digit]
    omega
  rw [letter, hsum, Char.ofNat_toNat]

/-- Of two letters, the later one is the greater digit. -/
theorem IsLetter.digit_lt (h : IsLetter c) (hlt : c < c') : digit c < digit c' := by
  have hlow := h.toNat_bounds.1
  have hnat : c.toNat < c'.toNat := UInt32.lt_iff_toNat_lt.1 hlt
  simp only [digit]
  omega

theorem value_append_singleton : value (s ++ [c]) = 26 * value s + digit c := by
  rw [value, List.foldl_append]
  rfl

theorem value_cons : value (c :: s) = digit c * 26 ^ s.length + value s := by
  induction s using List.reverseRecOn with
  | nil => simp [value]
  | append_singleton s d ih =>
    rw [← List.cons_append, value_append_singleton, ih, value_append_singleton, List.length_append,
      List.length_singleton]
    ring

/-! ## Writing and reading -/

theorem isLetter_of_mem_letters : ∀ c ∈ letters n, IsLetter c := by
  induction n using letters.induct with
  | case1 => simp [letters]
  | case2 n ih =>
    rw [letters]
    intro c hc
    rcases List.mem_append.1 hc with hc | hc
    · exact ih c hc
    · rw [List.mem_singleton.1 hc]
      exact isLetter_letter (Nat.mod_lt n (by decide))

/-- **What is written has the value that it is written for.** -/
theorem value_letters : value (letters n) = n := by
  induction n using letters.induct with
  | case1 => simp [letters, value]
  | case2 n ih =>
    rw [letters, value_append_singleton, ih, digit_letter (Nat.mod_lt n (by decide))]
    omega

/-- **Letters are what is written for their value.** -/
theorem letters_value (h : ∀ c ∈ s, IsLetter c) : letters (value s) = s := by
  induction s using List.reverseRecOn with
  | nil => simp [value, letters]
  | append_singleton s c ih =>
    have hs : ∀ c ∈ s, IsLetter c := fun c hc => h c (List.mem_append_left [_] hc)
    have hc : IsLetter c := h c (by simp)
    obtain ⟨hlow, hhigh⟩ := hc.digit_bounds
    -- The last digit is one more than a remainder, so that the value is a successor.
    have hvalue : value (s ++ [c]) = 26 * value s + (digit c - 1) + 1 := by
      rw [value_append_singleton]
      omega
    have hquotient : (26 * value s + (digit c - 1)) / 26 = value s := by omega
    have hremainder : (26 * value s + (digit c - 1)) % 26 = digit c - 1 := by omega
    rw [hvalue, letters, hquotient, hremainder, ih hs, hc.letter_digit]

/-! ## Order -/

/-- The smallest value of `k` letters. -/
def least : ℕ → ℕ
  | 0 => 0
  | k + 1 => 26 * least k + 1

theorem pow_eq_least (k : ℕ) : 26 ^ k = 25 * least k + 1 := by
  induction k with
  | zero => rfl
  | succ k ih =>
    rw [pow_succ, ih, least]
    omega

theorem monotone_least : Monotone least := by
  refine monotone_nat_of_le_succ fun k => ?_
  rw [least]
  omega

/-- **Values of `k` letters start at the smallest of them**, and stay below that of `k + 1` letters. -/
theorem value_bounds (h : ∀ c ∈ s, IsLetter c) :
    least s.length ≤ value s ∧ value s < least (s.length + 1) := by
  induction s using List.reverseRecOn with
  | nil => exact ⟨le_rfl, Nat.zero_lt_one⟩
  | append_singleton s c ih =>
    obtain ⟨hleast, hlt⟩ := ih fun c hc => h c (List.mem_append_left [_] hc)
    obtain ⟨hlow, hhigh⟩ := (h c (by simp)).digit_bounds
    rw [value_append_singleton, List.length_append, List.length_singleton]
    simp only [least] at hleast hlt ⊢
    omega

theorem value_lt_of_lex (h : ∀ c ∈ s, IsLetter c) (h' : ∀ c ∈ t, IsLetter c)
    (hlen : s.length = t.length) (hlex : List.Lex (· < ·) s t) : value s < value t := by
  induction hlex with
  | nil => simp at hlen
  | @cons c s t _ ih =>
    rw [List.forall_mem_cons] at h h'
    have hlen : s.length = t.length := Nat.succ.inj hlen
    rw [value_cons, value_cons, hlen]
    exact Nat.add_lt_add_left (ih h.2 h'.2 hlen) _
  | @rel c s c' t hlt =>
    rw [List.forall_mem_cons] at h h'
    have hlen : s.length = t.length := Nat.succ.inj hlen
    -- What follows the greater digit cannot make up for it.
    have hrest : value s < 26 ^ t.length + value t := by
      have hs := (value_bounds h.2).2
      have ht := (value_bounds h'.2).1
      rw [hlen, least] at hs
      rw [pow_eq_least]
      omega
    calc value (c :: s) = digit c * 26 ^ t.length + value s := by rw [value_cons, hlen]
      _ < digit c * 26 ^ t.length + (26 ^ t.length + value t) := Nat.add_lt_add_left hrest _
      _ = (digit c + 1) * 26 ^ t.length + value t := by ring
      _ ≤ digit c' * 26 ^ t.length + value t :=
        Nat.add_le_add_right (Nat.mul_le_mul_right _ (h.1.digit_lt hlt)) _
      _ = value (c' :: t) := value_cons.symm

/-- **Values grow with the names**, shorter ones first. -/
theorem value_lt_of_shortlex (h : ∀ c ∈ s, IsLetter c) (h' : ∀ c ∈ t, IsLetter c)
    (hst : List.Shortlex (· < ·) s t) : value s < value t := by
  rcases List.shortlex_def.1 hst with hlen | ⟨hlen, hlex⟩
  · exact (value_bounds h).2.trans_le ((monotone_least hlen).trans (value_bounds h').1)
  · exact value_lt_of_lex h h' hlen hlex

end

/-! ## Positions -/

/-- The name `r` comes before the name `s`. -/
def Before (r s : String) : Prop :=
  List.Shortlex (· < ·) r.toList s.toList

section
variable {i j : ℕ} {s : String}

theorem toList_ofIndex : (ofIndex i).toList = letters (i + 1) := by
  rw [ofIndex, String.toList_ofList]

theorem isLetter_of_mem_ofIndex : ∀ c ∈ (ofIndex i).toList, IsLetter c := by
  rw [toList_ofIndex]
  exact isLetter_of_mem_letters

theorem value_ofIndex : value (ofIndex i).toList = i + 1 := by
  rw [toList_ofIndex, value_letters]

theorem ofIndex_injective : Function.Injective ofIndex := by
  intro i j h
  have hvalue := congrArg (fun s : String => value s.toList) h
  simpa [value_ofIndex] using hvalue

/-- Letters name the position before their value. -/
theorem ofIndex_value (hne : s ≠ "") (h : ∀ c ∈ s.toList, IsLetter c) :
    ofIndex (value s.toList - 1) = s := by
  have hpos : 0 < value s.toList := by
    have hlength : 1 ≤ s.toList.length := List.length_pos_iff.2 (by simpa using hne)
    exact Nat.lt_of_lt_of_le Nat.zero_lt_one ((monotone_least hlength).trans (value_bounds h).1)
  rw [ofIndex, Nat.sub_add_cancel hpos, letters_value h, String.ofList_toList]

theorem before_ofIndex_iff : Before (ofIndex i) (ofIndex j) ↔ i < j := by
  have hlt {i j : ℕ} (h : Before (ofIndex i) (ofIndex j)) : i < j := by
    have hvalue := value_lt_of_shortlex isLetter_of_mem_ofIndex isLetter_of_mem_ofIndex h
    rw [value_ofIndex, value_ofIndex] at hvalue
    omega
  refine ⟨hlt, fun h => ?_⟩
  -- The order is total, and the opposite one would make the values decrease.
  by_contra hnot
  have hne : (ofIndex i).toList ≠ (ofIndex j).toList :=
    fun heq => h.ne (ofIndex_injective (String.toList_inj.1 heq))
  exact hne (Std.Trichotomous.trichotomous (r := List.Shortlex (· < ·)) _ _ hnot
    fun hji => h.asymm (hlt hji))

end

end RefId

/-! ## Targets -/

/-- The targets of a panel are named after their positions. -/
theorem Panel.map_refId_targets {p : Panel} {d : Devices} {ts : List Target}
    (h : p.targets d = .ok ts) :
    ts.map (·.refId) = (List.range ts.length).map RefId.ofIndex := by
  obtain ⟨shown, -, hpure⟩ := Fallible.bind_eq_ok.1 h
  obtain rfl := Fallible.pure_eq_ok.1 hpure
  exact List.ext_getElem (by simp) (by simp)

namespace RefId

/-- **Names number the positions, one to one and in their order.**  The name of a position is made
    of letters, at least one, and in base 26 without a zero its value is the number of the position,
    counted from one.  All letters are such a name, of one position only.  Names come in the order
    of their positions, shorter ones first; so the names of the targets of a panel are those of the
    first positions, distinct and in order. -/
theorem bijective_numbering :
    (∀ i, ofIndex i ≠ "" ∧ (∀ c ∈ (ofIndex i).toList, IsLetter c) ∧
      value (ofIndex i).toList = i + 1) ∧
    (∀ s : String, s ≠ "" → (∀ c ∈ s.toList, IsLetter c) →
      ∃ i, i + 1 = value s.toList ∧ ∀ j, ofIndex j = s ↔ j = i) ∧
    (∀ i j, Before (ofIndex i) (ofIndex j) ↔ i < j) ∧
    ∀ (p : Panel) (d : Devices) (ts : List Target), p.targets d = .ok ts →
      ts.map (·.refId) = (List.range ts.length).map ofIndex ∧
        (ts.map (·.refId)).Nodup ∧ (ts.map (·.refId)).Pairwise Before := by
  refine ⟨fun i => ⟨fun hempty => ?_, isLetter_of_mem_ofIndex, value_ofIndex⟩,
    fun s hne hs => ?_, fun i j => before_ofIndex_iff, fun p d ts h => ?_⟩
  · have hvalue := value_ofIndex (i := i)
    simp [hempty, value] at hvalue
  · have hname := ofIndex_value hne hs
    refine ⟨value s.toList - 1, ?_, fun j => ⟨fun hj => ?_, fun hj => hj ▸ hname⟩⟩
    · rw [← value_ofIndex, hname]
    · exact ofIndex_injective (hj.trans hname.symm)
  · have hnames := Panel.map_refId_targets h
    refine ⟨hnames, ?_, ?_⟩
    · rw [hnames]
      exact List.nodup_range.map ofIndex_injective
    · rw [hnames, List.pairwise_map]
      exact List.pairwise_lt_range.imp before_ofIndex_iff.2

/-- Where the names get longer, and a panel of three targets. -/
theorem bijective_numbering_carry :
    ofIndex 701 = "ZZ" ∧ Before (ofIndex 701) (ofIndex 702) ∧
      (∃ i, i + 1 = value "AAA".toList ∧ ∀ j, ofIndex j = "AAA" ↔ j = i) ∧
      ∃ ts, Panel.battery.targets { batteries := [4] } = .ok ts ∧
        ts.map (·.refId) = ["A", "B", "C"] ∧ (ts.map (·.refId)).Pairwise Before := by
  obtain ⟨-, hletters, hbefore, htargets⟩ := bijective_numbering
  refine ⟨by simp [ofIndex, letters, letter], (hbefore 701 702).2 (by decide),
    hletters "AAA" (by decide) (by simp [IsLetter]), _, rfl, ?_⟩
  obtain ⟨hnames, -, hordered⟩ := htargets .battery { batteries := [4] } _ rfl
  refine ⟨hnames.trans ?_, hordered⟩
  show [ofIndex 0, ofIndex 1, ofIndex 2] = _
  simp [ofIndex, letters, letter]

end RefId

end EnergyQuery
