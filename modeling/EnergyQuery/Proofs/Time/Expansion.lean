/-
  What becomes of a text when its placeholders are replaced.

  * `Unmarked s`: no placeholder begins within `s`, whatever follows it.  So it
    is of texts without a dollar sign, and of quoted texts that do not hold the
    mark (`unmarked_quoted`): a mark cannot reach over a delimiter;
  * `Steps m a b`: replacing the matches of `m` turns `a` into `b`, whatever
    follows, so that texts are replaced one after the other (`Steps.append`);
  * `expands_of_restated`: replacing the placeholders of a text by the literals of a
    range gives the text restated for that range, and no mark is left.
-/
import EnergyQuery.Proofs.Sql.Spelling
import EnergyQuery.Device.Labels
import EnergyQuery.Time.Placeholder

namespace EnergyQuery

open Sql

namespace Placeholder

/-! ## Texts without placeholders -/

/-- No placeholder begins within the text, whatever follows. -/
def Unmarked : List Char → Prop
  | [] => True
  | c :: s => (∀ rest, ¬placeholderMark <+: c :: (s ++ rest)) ∧ Unmarked s

section
variable {q c : Char} {a b s t : List Char}

theorem not_prefix_of_ne (h : c ≠ '$') : ¬placeholderMark <+: c :: s := by
  rintro ⟨t, ht⟩
  exact h (List.cons.inj ht).1.symm

theorem unmarked_of_no_dollar (h : '$' ∉ s) : Unmarked s := by
  induction s with
  | nil => trivial
  | cons c s ih =>
    refine ⟨fun rest => not_prefix_of_ne ?_, ih fun hs => h (List.mem_cons_of_mem c hs)⟩
    rintro rfl
    exact h List.mem_cons_self

theorem Unmarked.append (ha : Unmarked a) (hb : Unmarked b) : Unmarked (a ++ b) := by
  induction a with
  | nil => exact hb
  | cons c a ih =>
    refine ⟨fun rest => ?_, ih ha.2⟩
    have hhead := ha.1 (b ++ rest)
    rwa [← List.append_assoc] at hhead

/-- No mark is found where no placeholder begins. -/
theorem Unmarked.hasPlaceholderMark_append (ha : Unmarked a) :
    hasPlaceholderMark (a ++ s) = hasPlaceholderMark s := by
  induction a with
  | nil => rfl
  | cons c a ih =>
    have hhead : placeholderMark.isPrefixOf (c :: (a ++ s)) = false := by
      simpa [← List.isPrefixOf_iff_prefix] using ha.1 s
    rw [List.cons_append, hasPlaceholderMark, hhead, ih ha.2, Bool.false_or]

theorem Unmarked.hasPlaceholderMark_eq (ha : Unmarked a) : hasPlaceholderMark a = false := by
  simpa [hasPlaceholderMark] using ha.hasPlaceholderMark_append (s := [])

/-- What does not hold the delimiter and begins a quoted text begins its content. -/
theorem prefix_of_prefix_double {k : List Char} (hk : q ∉ k)
    (h : k <+: Text.double q s ++ q :: t) : k <+: s := by
  induction k generalizing s with
  | nil => exact List.nil_prefix
  | cons x k ih =>
    rw [List.mem_cons, not_or] at hk
    cases s with
    | nil => exact absurd (List.cons_prefix_cons.1 h).1.symm hk.1
    | cons c s =>
      rw [Text.double] at h
      split at h
      · exact absurd (List.cons_prefix_cons.1 h).1.symm hk.1
      · obtain ⟨rfl, hmore⟩ := List.cons_prefix_cons.1 h
        exact List.cons_prefix_cons.2 ⟨rfl, ih hk.2 hmore⟩

/-- The doubling of delimiters and a closing one keep the mark out. -/
theorem unmarked_double (hq : q ∉ placeholderMark) (h : hasPlaceholderMark s = false) :
    Unmarked (Text.double q s ++ [q]) := by
  have hdollar : q ≠ '$' := by
    rintro rfl
    exact hq (by decide)
  induction s with
  | nil => exact ⟨fun rest => not_prefix_of_ne hdollar, trivial⟩
  | cons c s ih =>
    rw [hasPlaceholderMark, Bool.or_eq_false_iff] at h
    obtain ⟨hhead, hmore⟩ := h
    by_cases hc : c = q
    · rw [Text.double, if_pos hc]
      exact ⟨fun rest => not_prefix_of_ne hdollar, fun rest => not_prefix_of_ne hdollar, ih hmore⟩
    · have hdouble : Text.double q (c :: s) = c :: Text.double q s := by rw [Text.double, if_neg hc]
      rw [hdouble]
      refine ⟨fun rest hprefix => ?_, ih hmore⟩
      have hcontent : placeholderMark <+: c :: s := by
        refine prefix_of_prefix_double hq (t := rest) ?_
        simpa [hdouble] using hprefix
      rw [← List.isPrefixOf_iff_prefix, hhead] at hcontent
      exact absurd hcontent (by simp)

/-- A quoted text is unmarked if its content does not hold the mark. -/
theorem unmarked_quoted {s : String} (hq : q ∉ placeholderMark)
    (h : hasPlaceholderMark s.toList = false) : Unmarked (Text.quoted q s).toList := by
  rw [Text.quoted, String.toList_ofList]
  refine ⟨fun rest => not_prefix_of_ne ?_, unmarked_double hq h⟩
  rintro rfl
  exact hq (by decide)

end

/-! ## Replacing -/

section
variable {m : List Char → Option (List Char × List Char)} {a a' b b' p s t : List Char}

/-- Replacing the matches of `m` turns `a` into `b`, whatever follows. -/
def Steps (m : List Char → Option (List Char × List Char)) (a b : List Char) : Prop :=
  ∀ rest, replaceAll m (a ++ rest) = b ++ replaceAll m rest

/-- Every match begins with the mark. -/
def Marked (m : List Char → Option (List Char × List Char)) : Prop :=
  ∀ s, (m s).isSome → placeholderMark <+: s

theorem Steps.append (h : Steps m a b) (h' : Steps m a' b') : Steps m (a ++ a') (b ++ b') := by
  intro rest
  rw [List.append_assoc, h, h', List.append_assoc]

theorem Steps.replaceAll_eq (h : Steps m a b) : replaceAll m a = b := by
  simpa [replaceAll] using h []

theorem Steps.cons {c : Char} (hc : ∀ rest, m (c :: (a ++ rest)) = none) (h : Steps m a b) :
    Steps m (c :: a) (c :: b) := by
  intro rest
  rw [List.cons_append, replaceAll, hc, h]
  rfl

/-- **A text without placeholders is left alone.** -/
theorem Steps.of_unmarked (hm : Marked m) (h : Unmarked a) : Steps m a a := by
  induction a with
  | nil => exact fun _ => rfl
  | cons c a ih =>
    refine .cons (fun rest => ?_) (ih h.2)
    rw [Option.eq_none_iff_forall_ne_some]
    intro p hp
    exact h.1 rest (hm _ (by rw [hp]; rfl))

/-- A placeholder of another kind is left alone. -/
theorem Steps.of_other {c : Char} (hm : Marked m) (h : '$' ∉ a)
    (hc : ∀ rest, m (c :: (a ++ rest)) = none) : Steps m (c :: a) (c :: a) :=
  .cons hc (.of_unmarked hm (unmarked_of_no_dollar h))

/-- A match is replaced. -/
theorem Steps.of_match (hne : a ≠ []) (h : ∀ rest, m (a ++ rest) = some (b, rest)) : Steps m a b := by
  intro rest
  obtain ⟨c, s, rfl⟩ := List.exists_cons_of_ne_nil hne
  have hmatch := h rest
  rw [List.cons_append] at hmatch ⊢
  rw [replaceAll, hmatch]
  simp

theorem afterStart?_eq_some (h : afterStart? p s = some t) : p <+: s := by
  induction p generalizing s with
  | nil => exact List.nil_prefix
  | cons c p ih =>
    cases s with
    | nil => simp [afterStart?] at h
    | cons d s =>
      rw [afterStart?] at h
      split at h
      · next hcd => exact List.cons_prefix_cons.2 ⟨hcd, ih h⟩
      · simp at h

end

-- from here on by its lemmas alone: texts are not to be taken apart into characters
attribute [irreducible] Unmarked

/-! ## The three placeholders -/

section
variable {start stop : List Char}

/-- What is read after the start of a placeholder begins with the mark. -/
theorem mark_prefix_of_bind {α : Type} {k s : List Char} {g : List Char → Option α}
    (hk : placeholderMark <+: k) (h : (afterStart? k s >>= g).isSome) : placeholderMark <+: s := by
  cases hafter : afterStart? k s with
  | none => simp [hafter] at h
  | some t => exact hk.trans (afterStart?_eq_some hafter)

theorem marked_filterValue : Marked (filterValue? start stop) := by
  intro s hs
  rw [filterValue?, Option.isSome_map] at hs
  exact mark_prefix_of_bind (by decide) hs

theorem marked_fromValue : Marked (fromValue? start) := by
  intro s hs
  rw [fromValue?, Option.isSome_map] at hs
  exact mark_prefix_of_bind (by decide) hs

theorem marked_toValue : Marked (toValue? stop) := by
  intro s hs
  rw [toValue?, Option.isSome_map] at hs
  exact mark_prefix_of_bind (by decide) hs

/-- Replacing the placeholders, one kind after the other, turns `a` into `b`, whatever follows. -/
def Expands (start stop a b : List Char) : Prop :=
  ∃ a₁ a₂, Steps (filterValue? start stop) a a₁ ∧ Steps (fromValue? start) a₁ a₂ ∧
    Steps (toValue? stop) a₂ b

variable {a a' b b' : List Char}

theorem Expands.of_unmarked (h : Unmarked a) : Expands start stop a a :=
  ⟨a, a, .of_unmarked marked_filterValue h, .of_unmarked marked_fromValue h,
    .of_unmarked marked_toValue h⟩

theorem Expands.append (h : Expands start stop a b) (h' : Expands start stop a' b') :
    Expands start stop (a ++ a') (b ++ b') := by
  obtain ⟨a₁, a₂, hfilter, hfrom, hto⟩ := h
  obtain ⟨a₁', a₂', hfilter', hfrom', hto'⟩ := h'
  exact ⟨a₁ ++ a₁', a₂ ++ a₂', hfilter.append hfilter', hfrom.append hfrom', hto.append hto'⟩

theorem Expands.expandList_eq (h : Expands start stop a b) : expandList start stop a = b := by
  obtain ⟨a₁, a₂, hfilter, hfrom, hto⟩ := h
  rw [expandList, hfilter.replaceAll_eq, hfrom.replaceAll_eq, hto.replaceAll_eq]

theorem filterValue_filter (rest : List Char) :
    filterValue? start stop (Window.selected.filter.toList ++ rest) =
      some (between start stop timeColumn.toList, rest) := by
  rfl

theorem fromValue_start (rest : List Char) :
    fromValue? start (Window.selected.start.toList ++ rest) = some (start, rest) := by
  rfl

theorem toValue_stop (rest : List Char) :
    toValue? stop (Window.selected.stop.toList ++ rest) = some (stop, rest) := by
  rfl

end

end Placeholder

/-! ## Literals of a range -/

/-- What is quoted holds no character but its delimiter and those of its content. -/
theorem Text.not_mem_quoted {q c : Char} {s : String} (hq : c ≠ q) (h : c ∉ s.toList) :
    c ∉ (quoted q s).toList := by
  rw [quoted, String.toList_ofList, List.mem_cons, List.mem_append, List.mem_singleton]
  rintro (hc | hs | hc)
  · exact hq hc
  · exact h (mem_double_iff.1 hs)
  · exact hq hc

namespace Timestamp
variable {n width : Nat} {c : Char}

/-- The characters that timestamps are written with. -/
def isWritten (c : Char) : Bool :=
  c.isDigit || ['-', '+', ':', '.', 'T', 'Z'].contains c

theorem isWritten_of_isDigit (h : c.isDigit = true) : isWritten c = true := by
  rw [isWritten, h, Bool.true_or]

theorem isOrdinary_of_isWritten (h : isWritten c = true) : isOrdinary c = true := by
  rw [isWritten, Bool.or_eq_true] at h
  rcases h with hdigit | hmark
  · exact isOrdinary_of_isAlphanum (by rw [Char.isAlphanum, hdigit, Bool.or_true])
  · have hmarks : ['-', '+', ':', '.', 'T', 'Z'].all isOrdinary = true := by decide
    exact List.all_eq_true.1 hmarks c (List.contains_iff_mem.1 hmark)

theorem not_isBlank_of_isWritten (h : isWritten c = true) : Text.isBlank c = false := by
  rw [isWritten, Bool.or_eq_true] at h
  rcases h with hdigit | hmark
  · have hnine : '9'.toNat = 57 := rfl
    have hzero : '0'.toNat = 48 := rfl
    have hrange : '0'.toNat ≤ c.toNat ∧ c.toNat ≤ '9'.toNat := by
      simp only [Char.isDigit, Bool.and_eq_true, decide_eq_true_eq] at hdigit
      exact hdigit
    exact Text.not_isBlank_of_lt (by omega) (by omega)
  · have hmarks : ['-', '+', ':', '.', 'T', 'Z'].all (!Text.isBlank ·) = true := by decide
    simpa using List.all_eq_true.1 hmarks c (List.contains_iff_mem.1 hmark)

theorem isDigit_of_mem_digits (h : c ∈ digits width n) : c.isDigit = true := by
  have hdigit : ∀ k < 10, (Char.ofNat ('0'.toNat + k)).isDigit = true := by decide
  induction width generalizing n with
  | zero => simp [digits] at h
  | succ width ih =>
    rw [digits, List.mem_append, List.mem_singleton] at h
    rcases h with h | rfl
    · exact ih h
    · exact hdigit _ (Nat.mod_lt n (by decide))

theorem all_digits : (digits width n).all isWritten = true :=
  List.all_eq_true.2 fun _ hc => isWritten_of_isDigit (isDigit_of_mem_digits hc)

theorem all_fraction : (fraction n).all isWritten = true := by
  have hpoint : isWritten '.' = true := rfl
  unfold fraction
  split_ifs <;> simp [all_digits, hpoint]

theorem all_offsetText {offset : Int} : (offsetText ['Z'] offset).all isWritten = true := by
  have hmarks : isWritten '-' = true ∧ isWritten '+' = true ∧ isWritten ':' = true := by decide
  unfold offsetText
  split_ifs
  · rfl
  all_goals simp [all_digits, hmarks]

theorem all_chars (t : Timestamp) : (t.chars ['Z']).all isWritten = true := by
  have hmarks : isWritten '-' = true ∧ isWritten 'T' = true ∧ isWritten ':' = true := by decide
  simp [chars, List.all_append, all_digits, all_fraction, all_offsetText, hmarks]

/-- A timestamp is written with ordinary characters. -/
theorem ordinary_text (t : Timestamp) : Ordinary t.text := by
  rw [Ordinary, text, String.toList_ofList, List.all_eq_true]
  exact fun c hc => isOrdinary_of_isWritten (List.all_eq_true.1 t.all_chars c hc)

end Timestamp

namespace TimeRange

/-- The window that a range fixes. -/
def window (r : TimeRange) : Window :=
  .fixed r.startLiteral r.stopLiteral

/-- The literals of a range hold ordinary characters and their delimiters. -/
theorem not_mem_literals (r : TimeRange) {c : Char} (hc : isOrdinary c = false) (hq : c ≠ '\x27') :
    c ∉ r.startLiteral.toList ∧ c ∉ r.stopLiteral.toList := by
  have hliteral (t : Timestamp) : c ∉ (Text.quoteLiteral t.text).toList := by
    refine Text.not_mem_quoted hq fun hmem => ?_
    have hordinary : isOrdinary c = true := List.all_eq_true.1 t.ordinary_text c hmem
    simp [hc] at hordinary
  exact ⟨hliteral r.start, hliteral r.stop⟩

end TimeRange

/-! ## Spelled texts -/

namespace Placeholder
variable {N L : String → Prop} {start stop t u : String} {ts us : List Token}

theorem no_dollar_of_ordinary (h : Ordinary t) : '$' ∉ t.toList :=
  fun hmem => absurd (List.all_eq_true.1 h _ hmem) (by decide)

/-- **The placeholders of a spelled text are replaced, and nothing else**: the result is the text
    restated for the range, and no placeholder is left. -/
theorem expands_of_restated (hN : ∀ n, N n → hasPlaceholderMark n.toList = false)
    (hL : ∀ l, L l → hasPlaceholderMark l.toList = false) (hstart : '$' ∉ start.toList)
    (hstop : '$' ∉ stop.toList) (h : Restated N L (.fixed start stop) t u) :
    Expands start.toList stop.toList t.toList u.toList ∧ Unmarked u.toList := by
  induction h with
  | ordinary h =>
    have hfree := unmarked_of_no_dollar (no_dollar_of_ordinary h)
    exact ⟨.of_unmarked hfree, hfree⟩
  | name h =>
    have hfree := unmarked_quoted (q := '"') (by decide) (hN _ h)
    exact ⟨.of_unmarked hfree, hfree⟩
  | literal h =>
    have hfree := unmarked_quoted (q := '\x27') (by decide) (hL _ h)
    exact ⟨.of_unmarked hfree, hfree⟩
  | filter =>
    have hbetween : between start.toList stop.toList timeColumn.toList =
        (Window.fixed start stop).filter.toList := by
      have hfilter : (Window.fixed start stop).filter =
        timeColumn ++ " BETWEEN " ++ start ++ " AND " ++ stop := rfl
      simp only [between, hfilter, String.toList_append]
    have hfree : Unmarked (Window.fixed start stop).filter.toList := by
      refine unmarked_of_no_dollar ?_
      rw [← hbetween]
      simp [between, timeColumn, hstart, hstop]
    refine ⟨⟨_, _, ?_, .of_unmarked marked_fromValue hfree, .of_unmarked marked_toValue hfree⟩,
      hfree⟩
    rw [← hbetween]
    exact .of_match (by decide) filterValue_filter
  | start =>
    have hfree := unmarked_of_no_dollar hstart
    refine ⟨⟨_, _, ?_, .of_match (by decide) fromValue_start, .of_unmarked marked_toValue hfree⟩,
      hfree⟩
    exact .of_other marked_filterValue (a := "__timeFrom()".toList) (by decide) fun _ => rfl
  | stop =>
    have hfree := unmarked_of_no_dollar hstop
    refine ⟨⟨Window.selected.stop.toList, Window.selected.stop.toList, ?_, ?_,
      .of_match (by decide) toValue_stop⟩, hfree⟩
    · exact .of_other marked_filterValue (a := "__timeTo()".toList) (by decide) fun _ => rfl
    · exact .of_other marked_fromValue (a := "__timeTo()".toList) (by decide) fun _ => rfl
  -- No mark runs across the ordinary text in the middle, so that each part is expanded alone.
  | join _ hb _ _ ihs iht =>
    have hfree := unmarked_of_no_dollar (no_dollar_of_ordinary hb)
    simp only [String.toList_append]
    exact ⟨(ihs.1.append (.of_unmarked hfree)).append iht.1, (ihs.2.append hfree).append iht.2⟩

theorem expands_render (hN : ∀ n, N n → hasPlaceholderMark n.toList = false)
    (hL : ∀ l, L l → hasPlaceholderMark l.toList = false) (hstart : '$' ∉ start.toList)
    (hstop : '$' ∉ stop.toList)
    (h : List.Forall₂ (Token.Restated N L (.fixed start stop)) ts us) :
    Expands start.toList stop.toList (Token.render ts).toList (Token.render us).toList ∧
      Unmarked (Token.render us).toList := by
  induction h with
  | nil =>
    have hfree : Unmarked [] := unmarked_of_no_dollar (by simp)
    exact ⟨.of_unmarked hfree, hfree⟩
  | cons ht _ ih =>
    obtain ⟨hexpands, hfree⟩ := expands_of_restated hN hL hstart hstop ht.text
    rw [Token.render_cons, Token.render_cons, String.toList_append, String.toList_append]
    exact ⟨hexpands.append ih.1, hfree.append ih.2⟩

/-- **Expanding a spelled statement fixes its window**, token by token. -/
theorem expand_render (hN : ∀ n, N n → hasPlaceholderMark n.toList = false)
    (hL : ∀ l, L l → hasPlaceholderMark l.toList = false) {s : Statement} (h : s.Spelled N L)
    (r : TimeRange) : ∃ ts us, s.tokens = .ok ts ∧ (s.within r.window).tokens = .ok us ∧
      List.Forall₂ (Token.Within r.window) ts us ∧
        expand r (Token.render ts) = Token.render us ∧
          hasPlaceholderMark (Token.render us).toList = false := by
  obtain ⟨ts, us, hts, hus, hrel⟩ := h.exists_tokens (w := r.window)
  obtain ⟨hstart, hstop⟩ := r.not_mem_literals (c := '$') rfl (by decide)
  obtain ⟨hexpands, hfree⟩ := expands_render hN hL hstart hstop hrel
  refine ⟨ts, us, hts, hus, hrel.imp fun _ _ h => h.within, ?_, hfree.hasPlaceholderMark_eq⟩
  have hexpand : expandList r.startLiteral.toList r.stopLiteral.toList (Token.render ts).toList =
      (Token.render us).toList := hexpands.expandList_eq
  rw [expand, hexpand, String.ofList_toList]

end Placeholder

end EnergyQuery
