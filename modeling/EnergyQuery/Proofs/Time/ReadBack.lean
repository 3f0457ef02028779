/-
  Timestamps are read back from what is written for them.

  * `readDigits_digits`, `readFraction_fraction`, `readOffset_offsetText`: the
    parts, each followed by whatever comes after it in a timestamp;
  * `ofChars_chars`: a valid timestamp is what its written form stands for;
  * `valid_of_ofChars`: whatever is read is valid, so that reading, writing and
    reading again changes nothing.  Digits of a fraction after the ninth,
    lower-case marks and a minus sign in place of a hyphen are lost at the first
    reading; a leap second stays the second 60;
  * `TimeRange.literals_read_back`: so it is for the two literals of a range.
-/
import EnergyQuery.Proofs.Fallible
import EnergyQuery.Proofs.Runs
import EnergyQuery.Proofs.Time.Expansion
import Mathlib.Data.Prod.Lex
import Mathlib.Tactic.Ring

namespace EnergyQuery

namespace Timestamp

/-! ## Digits -/

/-- The number that `n` becomes when digits are read after it. -/
def continued (n : ℕ) (ds : List Char) : ℕ :=
  ds.foldl (fun n c => 10 * n + digitValue c) n

section
variable {count n m k width : ℕ} {c : Char} {s t ds : List Char}

theorem digitValue_lt (h : c.isDigit = true) : digitValue c < 10 := by
  have hle : c.toNat ≤ '9'.toNat := by
    simp only [Char.isDigit, Bool.and_eq_true, decide_eq_true_eq] at h
    exact h.2
  have hnine : '9'.toNat = 57 := rfl
  have hzero : '0'.toNat = 48 := rfl
  unfold digitValue
  omega

theorem digitValue_ofNat : ∀ k < 10, digitValue (Char.ofNat ('0'.toNat + k)) = k := by
  decide

theorem continued_append : continued n (ds ++ s) = continued (continued n ds) s :=
  List.foldl_append

/-- Each digit leaves less than ten possibilities. -/
theorem continued_lt (h : ∀ c ∈ ds, c.isDigit = true) :
    continued n ds < (n + 1) * 10 ^ ds.length := by
  induction ds generalizing n with
  | nil => simp [continued]
  | cons c ds ih =>
    obtain ⟨hc, hds⟩ := List.forall_mem_cons.1 h
    have hnext : 10 * n + digitValue c + 1 ≤ 10 * (n + 1) := by
      have := digitValue_lt hc
      omega
    calc continued (10 * n + digitValue c) ds
        < (10 * n + digitValue c + 1) * 10 ^ ds.length := ih hds
      _ ≤ 10 * (n + 1) * 10 ^ ds.length := Nat.mul_le_mul_right _ hnext
      _ = (n + 1) * 10 ^ (c :: ds).length := by rw [List.length_cons, pow_succ]; ring

theorem continued_zeros : continued n (List.replicate k '0') = n * 10 ^ k := by
  induction k generalizing n with
  | zero => simp [continued]
  | succ k ih =>
    have hzero : continued n (List.replicate (k + 1) '0') =
        continued (10 * n) (List.replicate k '0') := rfl
    rw [hzero, ih, pow_succ]
    ring

/-- **Digits are read from the front**, and nothing else. -/
theorem readDigits_eq_ok_iff :
    readDigits count n s = .ok (m, t) ↔
      ∃ ds, ds.length = count ∧ (∀ c ∈ ds, c.isDigit = true) ∧ s = ds ++ t ∧ m = continued n ds := by
  induction count generalizing n s with
  | zero =>
    simp only [readDigits, List.length_eq_zero_iff, exists_eq_left]
    constructor
    · intro h
      obtain ⟨rfl, rfl⟩ := Prod.mk.inj (Except.ok.inj h)
      exact ⟨by simp, rfl, rfl⟩
    · rintro ⟨-, rfl, rfl⟩
      rfl
  | succ count ih =>
    cases s with
    | nil =>
      refine ⟨fun h => by simp [readDigits] at h, ?_⟩
      rintro ⟨ds, hlen, -, hs, -⟩
      obtain ⟨rfl, -⟩ := List.append_eq_nil_iff.1 hs.symm
      simp at hlen
    | cons c s =>
      rw [readDigits]
      constructor
      · intro h
        split at h
        · next hc =>
          obtain ⟨ds, hlen, hds, rfl, rfl⟩ := ih.1 h
          exact ⟨c :: ds, by simp [hlen], List.forall_mem_cons.2 ⟨hc, hds⟩, rfl, rfl⟩
        · simp at h
      · rintro ⟨ds, hlen, hds, hs, rfl⟩
        cases ds with
        | nil => simp at hlen
        | cons d ds =>
          obtain ⟨rfl, rfl⟩ := List.cons.inj hs
          obtain ⟨hc, hds⟩ := List.forall_mem_cons.1 hds
          rw [if_pos hc]
          exact ih.2 ⟨ds, by simpa using hlen, hds, rfl, rfl⟩

/-- What so many digits stand for is bounded. -/
theorem lt_of_readDigits (h : readDigits count 0 s = .ok (m, t)) : m < 10 ^ count := by
  obtain ⟨ds, rfl, hds, -, rfl⟩ := readDigits_eq_ok_iff.1 h
  simpa using continued_lt (n := 0) hds

/-! ### Written digits -/

@[simp] theorem length_digits : (digits width n).length = width := by
  induction width generalizing n with
  | zero => rfl
  | succ width ih => simp [digits, ih]

theorem continued_digits : continued m (digits width n) = m * 10 ^ width + n % 10 ^ width := by
  induction width generalizing n with
  | zero => simp [digits, continued, Nat.mod_one]
  | succ width ih =>
    have hlast : continued (continued m (digits width (n / 10)))
        [Char.ofNat ('0'.toNat + n % 10)] = 10 * continued m (digits width (n / 10)) + n % 10 := by
      rw [continued, List.foldl_cons, List.foldl_nil,
        digitValue_ofNat _ (Nat.mod_lt n (by decide))]
    have hmod : n % 10 ^ (width + 1) = n % 10 + 10 * (n / 10 % 10 ^ width) := by
      rw [pow_succ', Nat.mod_mul]
    rw [digits, continued_append, hlast, ih, hmod, pow_succ]
    ring

/-- **Written digits are read back.** -/
theorem readDigits_digits (h : n < 10 ^ width) :
    readDigits width 0 (digits width n ++ t) = .ok (n, t) := by
  refine readDigits_eq_ok_iff.2
    ⟨digits width n, length_digits, fun c hc => isDigit_of_mem_digits hc, rfl, ?_⟩
  rw [continued_digits, Nat.mod_eq_of_lt h, zero_mul, zero_add]

/-! ## Fractions -/

theorem nanosOf_lt (h : ∀ c ∈ ds, c.isDigit = true) (hlen : ds.length ≤ 9) :
    nanosOf ds < 10 ^ 9 := by
  have hall : ∀ c ∈ ds ++ List.replicate (9 - ds.length) '0', c.isDigit = true := by
    intro c hc
    rcases List.mem_append.1 hc with hc | hc
    · exact h c hc
    · obtain rfl := (List.mem_replicate.1 hc).2
      rfl
  have hlt := continued_lt (n := 0) hall
  have hnine : (ds ++ List.replicate (9 - ds.length) '0').length = 9 := by simp; omega
  rw [hnine, zero_add, one_mul] at hlt
  exact hlt

theorem nanosOf_digits :
    nanosOf (digits width n) = n % 10 ^ width * 10 ^ (9 - width) := by
  have hzeros : nanosOf (digits width n) =
      continued 0 (digits width n ++ List.replicate (9 - width) '0') := by
    rw [nanosOf, length_digits]
    rfl
  rw [hzeros, continued_append, continued_zeros, continued_digits, zero_mul, zero_add]

/-- Nothing that continues a number or begins a fraction. -/
def Terminates (s : List Char) : Prop :=
  ∀ c ∈ s.head?, c.isDigit = false ∧ c ≠ '.'

theorem readFraction_digits (hpos : 0 < width) (hwidth : width ≤ 9) (ht : Terminates t) :
    readFraction ('.' :: (digits width n ++ t)) =
      .ok (n % 10 ^ width * 10 ^ (9 - width), t) := by
  have hne : digits width n ≠ [] := List.ne_nil_of_length_pos (by simpa using hpos)
  obtain ⟨c, ds, hds⟩ := List.exists_cons_of_ne_nil hne
  have hc : c.isDigit = true := isDigit_of_mem_digits (by rw [hds]; simp)
  have hdigits : ∀ c ∈ digits width n, c.isDigit = true := fun c hc => isDigit_of_mem_digits hc
  have hstops : Stops Char.isDigit t := fun c hc => (ht c hc).1
  have htake : ((digits width n ++ t).takeWhile Char.isDigit).take 9 = digits width n := by
    rw [takeWhile_append_of_stops hdigits hstops, List.take_of_length_le (by simpa using hwidth)]
  have hread : readFraction ('.' :: (c :: ds ++ t)) =
      if c.isDigit then
        .ok (nanosOf (((c :: ds ++ t).takeWhile Char.isDigit).take 9),
          (c :: ds ++ t).dropWhile Char.isDigit)
      else .error .invalid := rfl
  rw [hds, hread, if_pos hc, ← hds, htake, dropWhile_append_of_stops hdigits hstops,
    nanosOf_digits]

/-- **A written fraction is read back.** -/
theorem readFraction_fraction (h : n < 10 ^ 9) (ht : Terminates t) :
    readFraction (fraction n ++ t) = .ok (n, t) := by
  unfold fraction
  split_ifs with hzero hmilli hmicro
  · subst hzero
    cases t with
    | nil => rfl
    | cons c t =>
      have hpoint : c ≠ '.' := (ht c rfl).2
      rw [List.nil_append, readFraction]
      simpa using hpoint
  · rw [List.cons_append, readFraction_digits (by decide) (by decide) ht]
    congr 2
    omega
  · rw [List.cons_append, readFraction_digits (by decide) (by decide) ht]
    congr 2
    omega
  · rw [List.cons_append, readFraction_digits (by decide) (by decide) ht]
    congr 2
    omega

/-! ## Offsets -/

theorem length_le_byteLength : s.length ≤ byteLength s := by
  induction s with
  | nil => exact Nat.le_refl 0
  | cons c s ih =>
    have hc : 0 < c.utf8Size := c.utf8Size_pos
    rw [List.length_cons, byteLength]
    omega

theorem readOffsetPart_digits (h : n < 10 ^ 2) :
    readOffsetPart (digits 2 n ++ t) = .ok (n, t) := by
  have hlength : 2 ≤ byteLength (digits 2 n ++ t) := by
    refine le_trans ?_ length_le_byteLength
    rw [List.length_append, length_digits]
    omega
  rw [readOffsetPart, if_neg (Nat.not_lt.2 hlength), readDigits_digits h]

/-- Hours and minutes are read back. -/
theorem readOffsetSize_digits (h : n < 24 * 60) :
    readOffsetSize (digits 2 (n / 60) ++ ':' :: digits 2 (n % 60)) = .ok (n, []) := by
  have hminutes : readOffsetMinutes (digits 2 (n % 60)) = .ok (n % 60, []) := by
    have hpart := readOffsetPart_digits (n := n % 60) (t := []) (by omega)
    rw [List.append_nil] at hpart
    rw [readOffsetMinutes, hpart]
    exact if_pos (Nat.mod_lt n (by decide))
  rw [readOffsetSize, readOffsetPart_digits (by omega)]
  show (readOffsetMinutes (digits 2 (n % 60)) >>= _) = _
  rw [hminutes]
  show Except.ok (60 * (n / 60) + n % 60, ([] : List Char)) = _
  rw [Nat.div_add_mod]

/-- **A written offset is read back.** -/
theorem readOffset_offsetText {offset : ℤ} (h : offset.natAbs < 24 * 60) :
    readOffset (offsetText ['Z'] offset) = .ok (offset, []) := by
  have heast (s : List Char) : readOffset ('+' :: s) =
      readOffsetSize s >>= fun p => pure ((p.1 : ℤ), p.2) := rfl
  have hwest (s : List Char) : readOffset ('-' :: s) =
      readOffsetSize s >>= fun p => pure (-(p.1 : ℤ), p.2) := rfl
  unfold offsetText
  split_ifs with hzero hneg
  · subst hzero
    rfl
  · rw [hwest, readOffsetSize_digits h]
    show Except.ok (-(offset.natAbs : ℤ), ([] : List Char)) = _
    congr 2
    omega
  · rw [heast, readOffsetSize_digits h]
    show Except.ok ((offset.natAbs : ℤ), ([] : List Char)) = _
    congr 2
    omega

theorem terminates_offsetText {offset : ℤ} : Terminates (offsetText ['Z'] offset) := by
  unfold offsetText
  split_ifs
  all_goals
    intro c hc
    obtain rfl : _ = c := by simpa using hc
    decide

end

/-! ## Whole timestamps -/

/-- A timestamp that texts can stand for: its date exists, and all else is in range. -/
structure Valid (t : Timestamp) : Prop where
  year : t.year < 10 ^ 4
  day : 1 ≤ t.day ∧ t.day ≤ daysInMonth t.year t.month
  time : t.hour ≤ 23 ∧ t.minute ≤ 59 ∧ t.second ≤ 60
  nanos : t.nanos < 10 ^ 9
  offset : t.offset.natAbs < 24 * 60

/-- There are twelve months, of at most 31 days. -/
theorem daysInMonth_bounds {year month : ℕ} (h : 0 < daysInMonth year month) :
    month ≤ 12 ∧ daysInMonth year month ≤ 31 := by
  unfold daysInMonth at h ⊢
  split at h
  case h_12 => exact ⟨by decide, by split <;> decide⟩
  case h_13 => exact absurd h (by decide)
  all_goals decide

section
variable {s rest : List Char} {t : Timestamp}

theorem requireRange_eq_ok_iff {valid : Bool} {u : Unit} :
    requireRange valid = .ok u ↔ valid = true := by
  unfold requireRange
  split <;> simp_all

theorem readDate_digits {year month day : ℕ} (hyear : year < 10 ^ 4)
    (hday : 1 ≤ day ∧ day ≤ daysInMonth year month) :
    readDate (digits 4 year ++ '-' :: (digits 2 month ++ '-' :: (digits 2 day ++ rest))) =
      .ok ((year, month, day), rest) := by
  obtain ⟨hmonth, hdays⟩ : month ≤ 12 ∧ daysInMonth year month ≤ 31 :=
    daysInMonth_bounds (by omega)
  have hdash (s : List Char) : expect (· == '-') ('-' :: s) = .ok ((), s) := rfl
  have hmonth : month < 10 ^ 2 := by omega
  have hdays : day < 10 ^ 2 := by omega
  have hrange : requireRange (1 ≤ day && day ≤ daysInMonth year month) = .ok () :=
    requireRange_eq_ok_iff.2 (by simpa using hday)
  refine Fallible.bind_eq_ok.2 ⟨_, readDigits_digits hyear, ?_⟩
  refine Fallible.bind_eq_ok.2 ⟨_, hdash _, ?_⟩
  refine Fallible.bind_eq_ok.2 ⟨_, readDigits_digits hmonth, ?_⟩
  refine Fallible.bind_eq_ok.2 ⟨_, hdash _, ?_⟩
  refine Fallible.bind_eq_ok.2 ⟨_, readDigits_digits hdays, ?_⟩
  exact Fallible.bind_eq_ok.2 ⟨_, hrange, rfl⟩

/-- **A written timestamp is read back.** -/
theorem ofChars_chars (h : t.Valid) : ofChars (t.chars ['Z']) = .ok t := by
  obtain ⟨hhour, hminute, hsecond⟩ := h.time
  have hcolon (s : List Char) : expect (· == ':') (':' :: s) = .ok ((), s) := rfl
  have hmark (s : List Char) :
      expect (fun c => c == 'T' || c == 't' || c == ' ') ('T' :: s) = .ok ((), s) := rfl
  have hlength : ¬byteLength (t.chars ['Z']) < 19 := by
    have hle := length_le_byteLength (s := t.chars ['Z'])
    simp only [chars, List.length_append, List.length_cons, length_digits] at hle
    rw [chars]
    omega
  have hhour' : t.hour < 10 ^ 2 := by omega
  have hminute' : t.minute < 10 ^ 2 := by omega
  have hsecond' : t.second < 10 ^ 2 := by omega
  have hrange : requireRange (t.hour ≤ 23 && t.minute ≤ 59 && t.second ≤ 60) = .ok () :=
    requireRange_eq_ok_iff.2 (by simp [hhour, hminute, hsecond])
  have hoffset : requireRange (t.offset.natAbs < 24 * 60) = .ok () :=
    requireRange_eq_ok_iff.2 (by simpa using h.offset)
  -- Each reader takes what its part wrote and leaves the rest to the next.
  rw [ofChars, if_neg hlength]
  refine Fallible.bind_eq_ok.2 ⟨_, readDate_digits h.year h.day, ?_⟩
  refine Fallible.bind_eq_ok.2 ⟨_, hmark _, ?_⟩
  refine Fallible.bind_eq_ok.2 ⟨_, readDigits_digits hhour', ?_⟩
  refine Fallible.bind_eq_ok.2 ⟨_, hcolon _, ?_⟩
  refine Fallible.bind_eq_ok.2 ⟨_, readDigits_digits hminute', ?_⟩
  refine Fallible.bind_eq_ok.2 ⟨_, hcolon _, ?_⟩
  refine Fallible.bind_eq_ok.2 ⟨_, readDigits_digits hsecond', ?_⟩
  refine Fallible.bind_eq_ok.2 ⟨_, readFraction_fraction h.nanos terminates_offsetText, ?_⟩
  refine Fallible.bind_eq_ok.2 ⟨_, hrange, ?_⟩
  refine Fallible.bind_eq_ok.2 ⟨_, readOffset_offsetText h.offset, ?_⟩
  exact Fallible.bind_eq_ok.2 ⟨_, hoffset, rfl⟩

/-! ### What reading gives -/

theorem readFraction_lt {n : ℕ} (h : readFraction s = .ok (n, rest)) : n < 10 ^ 9 := by
  unfold readFraction at h
  split at h
  · split at h
    · simp at h
    · split at h
      · obtain ⟨rfl, -⟩ := Prod.mk.inj (Except.ok.inj h)
        refine nanosOf_lt (fun c hc => ?_) (List.length_take_le _ _)
        exact List.mem_takeWhile_imp (List.mem_of_mem_take hc)
      · simp at h
  · obtain ⟨rfl, -⟩ := Prod.mk.inj (Except.ok.inj h)
    decide

theorem exists_of_readDate {year month day : ℕ}
    (h : readDate s = .ok ((year, month, day), rest)) :
    year < 10 ^ 4 ∧ 1 ≤ day ∧ day ≤ daysInMonth year month := by
  simp only [readDate, Fallible.bind_eq_ok, Fallible.pure_eq_ok, requireRange_eq_ok_iff] at h
  obtain ⟨⟨y, s⟩, hyear, ⟨_, s⟩, -, ⟨m, s⟩, -, ⟨_, s⟩, -, ⟨d, s⟩, -, _, hrange, h⟩ := h
  obtain ⟨⟨rfl, rfl, rfl⟩, rfl⟩ := by simpa only [Prod.mk.injEq] using h
  exact ⟨lt_of_readDigits hyear, by simpa using hrange⟩

/-- **Every text that is accepted stands for a valid timestamp.** -/
theorem valid_of_ofChars (h : ofChars s = .ok t) : t.Valid := by
  unfold ofChars at h
  split at h
  · cases h
  obtain ⟨⟨⟨year, month, day⟩, s⟩, hdate, h⟩ := Fallible.bind_eq_ok.1 h
  obtain ⟨_, -, h⟩ := Fallible.bind_eq_ok.1 h
  obtain ⟨⟨hour, s⟩, -, h⟩ := Fallible.bind_eq_ok.1 h
  obtain ⟨_, -, h⟩ := Fallible.bind_eq_ok.1 h
  obtain ⟨⟨minute, s⟩, -, h⟩ := Fallible.bind_eq_ok.1 h
  obtain ⟨_, -, h⟩ := Fallible.bind_eq_ok.1 h
  obtain ⟨⟨second, s⟩, -, h⟩ := Fallible.bind_eq_ok.1 h
  obtain ⟨⟨nanos, s⟩, hnanos, h⟩ := Fallible.bind_eq_ok.1 h
  obtain ⟨_, htime, h⟩ := Fallible.bind_eq_ok.1 h
  obtain ⟨⟨offset, s⟩, -, h⟩ := Fallible.bind_eq_ok.1 h
  dsimp only at h
  split at h
  · cases h
  obtain ⟨_, hoffset, h⟩ := Fallible.bind_eq_ok.1 h
  obtain rfl := Except.ok.inj h
  rw [requireRange_eq_ok_iff] at htime hoffset
  simp only [Bool.and_eq_true, decide_eq_true_eq, and_assoc] at htime hoffset
  obtain ⟨hyear, hday⟩ := exists_of_readDate hdate
  exact ⟨hyear, hday, htime, readFraction_lt hnanos, hoffset⟩

end

end Timestamp

/-! ## Ranges -/

/-- The literal is the text between two quotes, and the text holds nothing that would end the
    literal, begin a placeholder or its arguments, or separate words. -/
structure Encloses (literal text : String) : Prop where
  delimited : literal.toList = '\x27' :: (text.toList ++ ['\x27'])
  plain : ∀ c ∈ text.toList, c ∉ ['\x27', '"', '$', '(', ')'] ∧ Text.isBlank c = false

namespace TimeRange
variable {start stop : String} {s t : Timestamp} {r : TimeRange}

/-- Timestamps compare by their instants, first by seconds and then by nanoseconds. -/
theorem before_iff : s.before t = true ↔ toLex s.instant < toLex t.instant := by
  rw [Prod.Lex.toLex_lt_toLex, Timestamp.before, Bool.or_eq_true, Bool.and_eq_true,
    decide_eq_true_eq, decide_eq_true_eq, beq_iff_eq]

theorem between_eq_ok_iff : between s t = .ok r ↔ s.before t = true ∧ r = ⟨s, t⟩ := by
  unfold between
  split_ifs with h
  · simp [h, eq_comm]
  · simp [h]

theorem ofTexts_eq_ok_iff : ofTexts start stop = .ok r ↔
    readBound start = .ok r.start ∧ readBound stop = .ok r.stop ∧
      r.start.before r.stop = true := by
  simp only [ofTexts, Fallible.bind_eq_ok, between_eq_ok_iff]
  constructor
  · rintro ⟨_, hstart, _, hstop, hbefore, rfl⟩
    exact ⟨hstart, hstop, hbefore⟩
  · rintro ⟨hstart, hstop, hbefore⟩
    exact ⟨_, hstart, _, hstop, hbefore, rfl⟩

theorem valid_of_readBound (h : readBound start = .ok t) : t.Valid :=
  Timestamp.valid_of_ofChars (Fallible.mapError_eq_ok.1 h)

/-- **A written bound is read back.** -/
theorem readBound_text (h : t.Valid) : readBound t.text = .ok t := by
  have htrim : Text.trimList (t.chars ['Z']) = t.chars ['Z'] := by
    refine Text.trimList_eq_self fun c hc => Timestamp.not_isBlank_of_isWritten ?_
    exact List.all_eq_true.1 t.all_chars c hc
  rw [readBound, Timestamp.text, String.toList_ofList, htrim, Timestamp.ofChars_chars h]
  rfl

/-- The literal of a timestamp encloses its written form. -/
theorem encloses_text (t : Timestamp) : Encloses (Text.quoteLiteral t.text) t.text := by
  have hmarks : ['\x27', '"', '$', '(', ')'].all (!Timestamp.isWritten ·) = true := by decide
  have hwritten : ∀ c ∈ t.text.toList, Timestamp.isWritten c = true := by
    rw [Timestamp.text, String.toList_ofList]
    exact List.all_eq_true.1 t.all_chars
  have hplain : ∀ c ∈ t.text.toList, c ∉ ['\x27', '"', '$', '(', ')'] := by
    intro c hc hmark
    have hnot := List.all_eq_true.1 hmarks c hmark
    rw [hwritten c hc] at hnot
    exact absurd hnot (by decide)
  have hquote : '\x27' ∉ t.text.toList := fun h => hplain _ h (by decide)
  refine ⟨?_, fun c hc => ⟨hplain c hc, Timestamp.not_isBlank_of_isWritten (hwritten c hc)⟩⟩
  rw [Text.quoteLiteral, Text.quoted, String.toList_ofList, Text.double_eq_self hquote]

/-- **The literals of a range are read back.**  Without their quotes the two literals of an
    accepted range give the same range again, to the offsets, and so the same literals; they hold
    no quote, dollar sign, parenthesis or blank.  Of two texts that are timestamps a range is made
    exactly if the first instant is before the second. -/
theorem literals_read_back (start stop : String) :
    (∀ r, ofTexts start stop = .ok r →
      toLex r.start.instant < toLex r.stop.instant ∧
      ∃ first last, Encloses r.startLiteral first ∧ Encloses r.stopLiteral last ∧
        ofTexts first last = .ok r) ∧
    ∀ s t, readBound start = .ok s → readBound stop = .ok t →
      ((∃ r, ofTexts start stop = .ok r) ↔ toLex s.instant < toLex t.instant) := by
  constructor
  · intro r hr
    obtain ⟨hstart, hstop, hbefore⟩ := ofTexts_eq_ok_iff.1 hr
    refine ⟨before_iff.1 hbefore, r.start.text, r.stop.text,
      encloses_text r.start, encloses_text r.stop, ofTexts_eq_ok_iff.2 ⟨?_, ?_, hbefore⟩⟩
    · exact readBound_text (valid_of_readBound hstart)
    · exact readBound_text (valid_of_readBound hstop)
  · intro s t hs ht
    constructor
    · rintro ⟨r, hr⟩
      obtain ⟨hstart, hstop, hbefore⟩ := ofTexts_eq_ok_iff.1 hr
      obtain rfl : r.start = s := Except.ok.inj (hstart.symm.trans hs)
      obtain rfl : r.stop = t := Except.ok.inj (hstop.symm.trans ht)
      exact before_iff.1 hbefore
    · intro hlt
      exact ⟨⟨s, t⟩, ofTexts_eq_ok_iff.2 ⟨hs, ht, before_iff.2 hlt⟩⟩

/-- From a leap second with more digits than count, a typographic minus sign and blanks around it,
    to a fraction that gets shorter. -/
theorem literals_read_back_leapSecond :
    ∃ r, ofTexts "\t2016-12-31t23:59:60.1234567891\u221201:30\n"
        "2017-01-01 13:30:00.120000+12:00 " = .ok r ∧
      r.startLiteral = "'2016-12-31T23:59:60.123456789-01:30'" ∧
      r.stopLiteral = "'2017-01-01T13:30:00.120+12:00'" ∧
      toLex r.start.instant < toLex r.stop.instant ∧
      ∃ first last, Encloses r.startLiteral first ∧ Encloses r.stopLiteral last ∧
        ofTexts first last = .ok r := by
  have hstart : readBound "\t2016-12-31t23:59:60.1234567891\u221201:30\n" =
      .ok ⟨2016, 12, 31, 23, 59, 60, 123456789, -90⟩ := by decide +kernel
  have hstop : readBound "2017-01-01 13:30:00.120000+12:00 " =
      .ok ⟨2017, 1, 1, 13, 30, 0, 120000000, 720⟩ := by decide +kernel
  have hlt : toLex (Timestamp.instant ⟨2016, 12, 31, 23, 59, 60, 123456789, -90⟩) <
      toLex (Timestamp.instant ⟨2017, 1, 1, 13, 30, 0, 120000000, 720⟩) := by decide +kernel
  obtain ⟨hback, hmade⟩ := literals_read_back "\t2016-12-31t23:59:60.1234567891\u221201:30\n"
    "2017-01-01 13:30:00.120000+12:00 "
  obtain ⟨r, hr⟩ := (hmade _ _ hstart hstop).2 hlt
  obtain ⟨hfirst, hlast, -⟩ := ofTexts_eq_ok_iff.1 hr
  have hrstart := Except.ok.inj (hfirst.symm.trans hstart)
  have hrstop := Except.ok.inj (hlast.symm.trans hstop)
  refine ⟨r, hr, ?_, ?_, hback r hr⟩
  · rw [startLiteral, hrstart]
    decide +kernel
  · rw [stopLiteral, hrstop]
    decide +kernel

end TimeRange

end EnergyQuery
