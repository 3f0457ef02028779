/-
  The grammar of texts that refer to variables.

  * A `Piece` is a part of such a text as it is written; `Piece.Fits` says what
    may follow it, and `Decomposes ps s` that `s` is written with the pieces `ps`;
  * `ofChars_eq`: taking a text apart gives what its pieces stand for, so that
    the pieces are determined (`Decomposes.unique`); every text has some
    (`exists_decomposes`);
  * `values_eq_ok_iff`, `values_eq_error_iff`: the values are put in as they are,
    or the first name without one is the fault;
  * `Environment.expansion_grammar`: the two together.
-/
import EnergyQuery.Config.Environment
import EnergyQuery.Proofs.Fallible
import EnergyQuery.Proofs.Runs

namespace EnergyQuery

/-! ## Pieces -/

/-- A part of a text, as it is written. -/
inductive Piece where
  | text (t : List Char)
  /-- `${name}` -/
  | braced (name : List Char)
  /-- `${name`, where the text ends -/
  | unclosed (name : List Char)
  /-- `$name` -/
  | bare (name : List Char)
  | dollar

namespace Piece

/-- The characters of a piece. -/
def chars : Piece → List Char
  | text t => t
  | braced name => '$' :: '{' :: (name ++ ['}'])
  | unclosed name => '$' :: '{' :: name
  | bare name => '$' :: name
  | dollar => ['$']

/-- The piece is well formed and can be followed by `s`: texts and bare names are as long as
    they can be, and a dollar sign by itself begins no reference. -/
def Fits : Piece → List Char → Prop
  | text t, s => t ≠ [] ∧ '$' ∉ t ∧ Stops (· ≠ '$') s
  | braced name, _ => '}' ∉ name
  | unclosed name, s => '}' ∉ name ∧ s = []
  | bare name, s => name ≠ [] ∧ (∀ c ∈ name, isNameChar c = true) ∧ Stops isNameChar s
  | dollar, s => s.head? ≠ some '{' ∧ Stops isNameChar s

instance : ∀ (p : Piece) (s : List Char), Decidable (p.Fits s)
  | text t, s => inferInstanceAs (Decidable (t ≠ [] ∧ '$' ∉ t ∧ Stops (· ≠ '$') s))
  | braced name, _ => inferInstanceAs (Decidable ('}' ∉ name))
  | unclosed name, s => inferInstanceAs (Decidable ('}' ∉ name ∧ s = []))
  | bare name, s =>
    decidable_of_iff (name ≠ [] ∧ name.all isNameChar = true ∧ Stops isNameChar s)
      (and_congr_right fun _ => and_congr_left' List.all_eq_true)
  | dollar, s => inferInstanceAs (Decidable (s.head? ≠ some '{' ∧ Stops isNameChar s))

/-- What the piece stands for. -/
def segment : Piece → Segment
  | text t => .literal t
  | braced name | unclosed name | bare name => .reference name
  | dollar => .dollar

/-- The variable that the piece refers to. -/
def name? (p : Piece) : Option String :=
  p.segment.name?

end Piece

/-- The text is written with these pieces, one after the other. -/
inductive Decomposes : List Piece → List Char → Prop
  | nil : Decomposes [] []
  | cons {p ps s} : p.Fits s → Decomposes ps s → Decomposes (p :: ps) (p.chars ++ s)

section
variable {p q : Piece} {ps qs : List Piece} {c : Char} {s t name : List Char}

/-! ## One piece after the other -/

theorem isNameChar_brace : isNameChar '{' = false := by
  decide +kernel

namespace Segment

theorem ofChars_text (h : c ≠ '$') : ofChars (c :: s) =
    literal (c :: s.takeWhile (· ≠ '$')) :: ofChars (s.dropWhile (· ≠ '$')) := by
  rw [ofChars, if_pos h]

theorem ofChars_brace : ofChars ('$' :: '{' :: s) =
    reference (s.takeWhile (· ≠ '}')) :: ofChars (s.dropWhile (· ≠ '}')).tail := by
  rw [ofChars, if_neg (by simp), List.head?_cons, if_pos rfl, List.tail_cons]

theorem ofChars_name (h : s.head? ≠ some '{') (hs : s.takeWhile isNameChar ≠ []) :
    ofChars ('$' :: s) = reference (s.takeWhile isNameChar) :: ofChars (s.dropWhile isNameChar) := by
  rw [ofChars, if_neg (by simp), if_neg h, if_neg (by simpa using hs)]

theorem ofChars_dollar (h : s.head? ≠ some '{') (hs : s.takeWhile isNameChar = []) :
    ofChars ('$' :: s) = dollar :: ofChars s := by
  rw [ofChars, if_neg (by simp), if_neg h, if_pos (by rw [hs]; rfl)]

end Segment

/-- A text that holds no `x` is a run of other characters. -/
theorem forall_ne_of_not_mem {x : Char} (h : x ∉ t) : ∀ c ∈ t, decide (c ≠ x) = true := by
  intro c hc
  rw [decide_eq_true_eq]
  rintro rfl
  exact h hc

/-- A bare name begins with no brace. -/
theorem head?_ne_brace (hne : name ≠ []) (hname : ∀ c ∈ name, isNameChar c = true) :
    (name ++ s).head? ≠ some '{' := by
  obtain ⟨c, more, rfl⟩ := List.exists_cons_of_ne_nil hne
  rw [List.cons_append, List.head?_cons]
  intro hc
  obtain rfl := Option.some.inj hc
  exact Bool.eq_false_iff.1 isNameChar_brace (hname '{' List.mem_cons_self)

/-- **Taking apart reads one piece after the other.** -/
theorem Piece.Fits.ofChars_append (h : p.Fits s) :
    Segment.ofChars (p.chars ++ s) = p.segment :: Segment.ofChars s := by
  cases p with
  | text t =>
    obtain ⟨hne, hfree, hstops⟩ := h
    obtain ⟨c, t, rfl⟩ := List.exists_cons_of_ne_nil hne
    obtain ⟨hc, ht⟩ := List.forall_mem_cons.1 (forall_ne_of_not_mem hfree)
    rw [chars, List.cons_append, Segment.ofChars_text (of_decide_eq_true hc),
      takeWhile_append_of_stops ht hstops, dropWhile_append_of_stops ht hstops]
    rfl
  | braced name =>
    have hname := forall_ne_of_not_mem h
    have hstops : Stops (fun c => decide (c ≠ '}')) ('}' :: s) := stops_cons rfl
    have htext : (braced name).chars ++ s = '$' :: '{' :: (name ++ '}' :: s) := by simp [chars]
    rw [htext, Segment.ofChars_brace, takeWhile_append_of_stops hname hstops,
      dropWhile_append_of_stops hname hstops]
    rfl
  | unclosed name =>
    obtain ⟨hfree, rfl⟩ := h
    have hname := forall_ne_of_not_mem hfree
    have hstops : Stops (fun c => decide (c ≠ '}')) [] := stops_nil
    rw [chars, List.cons_append, List.cons_append, Segment.ofChars_brace,
      takeWhile_append_of_stops hname hstops, dropWhile_append_of_stops hname hstops]
    rfl
  | bare name =>
    obtain ⟨hne, hname, hstops⟩ := h
    have hrun := takeWhile_append_of_stops hname hstops
    rw [chars, List.cons_append,
      Segment.ofChars_name (head?_ne_brace hne hname) (by rw [hrun]; exact hne), hrun,
      dropWhile_append_of_stops hname hstops]
    rfl
  | dollar =>
    obtain ⟨hhead, hstops⟩ := h
    exact Segment.ofChars_dollar hhead (takeWhile_eq_nil_iff_stops.2 hstops)

/-- Taking a text apart gives what its pieces stand for. -/
theorem Decomposes.ofChars_eq (h : Decomposes ps s) :
    Segment.ofChars s = ps.map Piece.segment := by
  induction h with
  | nil => rw [Segment.ofChars, List.map_nil]
  | cons hfits _ ih => rw [hfits.ofChars_append, ih, List.map_cons]

/-! ## The pieces of a text -/

/-- The way in which a reference is written shows in the text. -/
theorem Piece.eq_of_segment_eq (hp : p.Fits s) (hq : q.Fits t) (hseg : p.segment = q.segment)
    (htext : p.chars ++ s = q.chars ++ t) : p = q := by
  have hbare {name : List Char} {s t : List Char} (h : (bare name).Fits s)
      (heq : name ++ s = '{' :: t) : False := by
    have hhead := head?_ne_brace (s := s) h.1 h.2.1
    rw [heq] at hhead
    exact hhead rfl
  cases p <;> cases q
  case text.text => rw [Segment.literal.inj hseg]
  case dollar.dollar => rfl
  case braced.braced | unclosed.unclosed | bare.bare => rw [Segment.reference.inj hseg]
  case braced.unclosed =>
    obtain rfl := Segment.reference.inj hseg
    obtain ⟨-, rfl⟩ := hq
    simp [chars] at htext
  case unclosed.braced =>
    obtain rfl := Segment.reference.inj hseg
    obtain ⟨-, rfl⟩ := hp
    simp [chars] at htext
  case braced.bare | unclosed.bare => exact (hbare hq (List.cons.inj htext).2.symm).elim
  case bare.braced | bare.unclosed => exact (hbare hp (List.cons.inj htext).2).elim
  all_goals cases hseg

/-- **The pieces of a text are determined.** -/
theorem Decomposes.unique (hp : Decomposes ps s) (hq : Decomposes qs s) : ps = qs := by
  induction hp generalizing qs with
  | nil =>
    have hnone := hq.ofChars_eq
    rw [Segment.ofChars] at hnone
    exact (List.map_eq_nil_iff.1 hnone.symm).symm
  | @cons p ps s hfits htail ih =>
    have hsegs := (Decomposes.cons hfits htail).ofChars_eq.symm.trans hq.ofChars_eq
    generalize htext : p.chars ++ s = u at hq
    cases hq with
    | nil => simp at hsegs
    | @cons q qs t hfits' htail' =>
      obtain rfl : p = q := Piece.eq_of_segment_eq hfits hfits' (List.cons.inj hsegs).1 htext
      obtain rfl : s = t := List.append_cancel_left htext
      rw [ih htail']

theorem exists_decomposes_append (hfits : p.Fits t) (htext : p.chars ++ t = s)
    (h : ∃ ps, Decomposes ps t) : ∃ ps, Decomposes ps s := by
  obtain ⟨ps, hps⟩ := h
  exact ⟨p :: ps, htext ▸ .cons hfits hps⟩

theorem not_mem_takeWhile_ne {x : Char} : x ∉ s.takeWhile (· ≠ x) := by
  intro hmem
  simpa using List.mem_takeWhile_imp hmem

/-- A braced name ends at the first closing brace, or with the text. -/
theorem exists_decomposes_brace (h : ∃ ps, Decomposes ps (s.dropWhile (· ≠ '}')).tail) :
    ∃ ps, Decomposes ps ('$' :: '{' :: s) := by
  have hsplit : s.takeWhile (· ≠ '}') ++ s.dropWhile (· ≠ '}') = s :=
    List.takeWhile_append_dropWhile
  generalize hrest : s.dropWhile (· ≠ '}') = rest at h hsplit
  cases rest with
  | nil =>
    refine ⟨[.unclosed (s.takeWhile (· ≠ '}'))], ?_⟩
    have htext : (Piece.unclosed (s.takeWhile (· ≠ '}'))).chars ++ [] = '$' :: '{' :: s := by
      rw [List.append_nil, Piece.chars, ← List.append_nil (s.takeWhile _), hsplit]
    exact htext ▸ .cons ⟨not_mem_takeWhile_ne, rfl⟩ .nil
  | cons c rest =>
    have hstops : Stops (fun c => decide (c ≠ '}')) (c :: rest) := hrest ▸ stops_dropWhile
    obtain rfl : c = '}' := by simpa using hstops c rfl
    refine exists_decomposes_append (p := .braced (s.takeWhile (· ≠ '}'))) not_mem_takeWhile_ne
      ?_ h
    rw [Piece.chars, List.cons_append, List.cons_append, List.append_assoc, List.singleton_append,
      List.tail_cons, hsplit]

/-- **Every text has its pieces.** -/
theorem exists_decomposes (s : List Char) : ∃ ps, Decomposes ps s := by
  -- The cases are those of the split: plain text, a braced name, a lone dollar and a bare name.
  induction s using Segment.ofChars.induct with
  | case1 => exact ⟨[], .nil⟩
  | case2 c s hc ih =>
    have hfree : '$' ∉ c :: s.takeWhile (· ≠ '$') := by
      rw [List.mem_cons, not_or]
      exact ⟨Ne.symm hc, not_mem_takeWhile_ne⟩
    have htext : c :: s.takeWhile (· ≠ '$') ++ s.dropWhile (· ≠ '$') = c :: s := by
      rw [List.cons_append, List.takeWhile_append_dropWhile]
    exact exists_decomposes_append (p := .text (c :: s.takeWhile (· ≠ '$')))
      ⟨by simp, hfree, stops_dropWhile⟩ htext ih
  | case3 c s hc hhead ih =>
    obtain rfl : c = '$' := by simpa using hc
    obtain ⟨s, rfl⟩ : ∃ t, s = '{' :: t := List.head?_eq_some_iff.1 hhead
    exact exists_decomposes_brace ih
  | case4 c s hc hhead hnone ih =>
    obtain rfl : c = '$' := by simpa using hc
    have hstops : Stops isNameChar s := takeWhile_eq_nil_iff_stops.1 (List.isEmpty_iff.1 hnone)
    exact exists_decomposes_append (p := .dollar) ⟨hhead, hstops⟩ rfl ih
  | case5 c s hc hhead hname ih =>
    obtain rfl : c = '$' := by simpa using hc
    have hne : s.takeWhile isNameChar ≠ [] := by simpa using hname
    have htext : (Piece.bare (s.takeWhile isNameChar)).chars ++ s.dropWhile isNameChar =
        '$' :: s := by
      rw [Piece.chars, List.cons_append, List.takeWhile_append_dropWhile]
    exact exists_decomposes_append (p := .bare (s.takeWhile isNameChar))
      ⟨hne, fun c hc => List.mem_takeWhile_imp hc, stops_dropWhile⟩ htext ih

end

/-! ## Values -/

namespace Segment
variable {env : Environment} {x : Segment} {segs : List Segment} {t : List Char}
  {e : MissingVariable}

/-- What is put in for a segment, where its variable is set. -/
def filled (env : Environment) : Segment → List Char
  | literal t => t
  | dollar => ['$']
  | reference name => ((env.get? (String.ofList name)).getD "").toList

theorem value_reference {name : List Char} : (reference name).value env =
    match env.get? (String.ofList name) with
    | some v => .ok v.toList
    | none => .error ⟨String.ofList name⟩ := rfl

theorem value_eq_ok_iff :
    x.value env = .ok t ↔ (∀ n ∈ x.name?, (env.get? n).isSome) ∧ t = x.filled env := by
  cases x with
  | literal s => simpa [value, name?, filled] using eq_comm
  | dollar => simpa [value, name?, filled] using eq_comm
  | reference name =>
    rw [value_reference]
    cases h : env.get? (String.ofList name) with
    | none => simp [name?, h]
    | some v => simpa [name?, filled, h] using eq_comm

theorem value_eq_error_iff :
    x.value env = .error e ↔ x.name? = some e.name ∧ env.get? e.name = none := by
  cases x with
  | literal s => simp [value, name?]
  | dollar => simp [value, name?]
  | reference name =>
    rw [value_reference, name?, Option.some.injEq]
    constructor
    · intro h
      split at h
      · cases h
      · next hnone =>
        obtain rfl := Except.error.inj h
        exact ⟨rfl, hnone⟩
    · rintro ⟨hname, hnone⟩
      rw [hname, hnone]

/-- Values are put in one after the other, where every variable is set. -/
theorem values_eq_ok_iff : values env segs = .ok t ↔
    (∀ n ∈ segs.filterMap name?, (env.get? n).isSome) ∧ t = segs.flatMap (filled env) := by
  induction segs generalizing t with
  | nil =>
    rw [values, Except.ok.injEq, List.filterMap_nil, List.flatMap_nil, eq_comm]
    exact ⟨fun h => ⟨by simp, h⟩, And.right⟩
  | cons x segs ih =>
    simp only [values, Fallible.bind_eq_ok, Fallible.pure_eq_ok, value_eq_ok_iff, ih,
      List.mem_filterMap, List.mem_cons, List.flatMap_cons]
    constructor
    · rintro ⟨_, ⟨hx, rfl⟩, _, ⟨hsegs, rfl⟩, rfl⟩
      refine ⟨?_, rfl⟩
      rintro n ⟨y, rfl | hy, hn⟩
      · exact hx n hn
      · exact hsegs n ⟨y, hy, hn⟩
    · rintro ⟨hset, rfl⟩
      have hx : ∀ n ∈ x.name?, (env.get? n).isSome := fun n hn => hset n ⟨x, .inl rfl, hn⟩
      have hsegs : ∀ n, (∃ y ∈ segs, y.name? = some n) → (env.get? n).isSome := by
        rintro n ⟨y, hy, hn⟩
        exact hset n ⟨y, .inr hy, hn⟩
      exact ⟨_, ⟨hx, rfl⟩, _, ⟨hsegs, rfl⟩, rfl⟩

/-- The first name without a value is the fault. -/
theorem values_eq_error_iff : values env segs = .error e ↔
    (segs.filterMap name?).find? (fun n => (env.get? n).isNone) = some e.name := by
  induction segs with
  | nil => simp [values]
  | cons x segs ih =>
    cases hx : x.value env with
    -- The first segment whose variable is not set decides, whatever follows it.
    | error f =>
      obtain ⟨hname, hnone⟩ := value_eq_error_iff.1 hx
      have hvalues : values env (x :: segs) = .error f := by
        rw [values, hx]
        rfl
      have hfind : ((x :: segs).filterMap name?).find? (fun n => (env.get? n).isNone) =
          some f.name := by
        rw [List.filterMap_cons_some hname, List.find?_cons_of_pos (by rw [hnone]; rfl)]
      rw [hvalues, hfind, Except.error.injEq, Option.some.injEq]
      exact ⟨congrArg MissingVariable.name, fun h => congrArg MissingVariable.mk h⟩
    | ok v =>
      obtain ⟨hset, -⟩ := value_eq_ok_iff.1 hx
      have hvalues : values env (x :: segs) = .error e ↔ values env segs = .error e := by
        simp only [values, hx, Fallible.bind_eq_error, Fallible.pure_ne_error, Except.ok.injEq,
          reduceCtorEq, false_or, and_false, exists_false, or_false, exists_eq_left']
      have hfind : ((x :: segs).filterMap name?).find? (fun n => (env.get? n).isNone) =
          (segs.filterMap name?).find? (fun n => (env.get? n).isNone) := by
        cases hname : x.name? with
        | none => rw [List.filterMap_cons_none hname]
        | some n =>
          obtain ⟨v, hv⟩ := Option.isSome_iff_exists.1 (hset n hname)
          rw [List.filterMap_cons_some hname, List.find?_cons_of_neg (by simp [hv])]
      rw [hvalues, hfind, ih]

end Segment

/-! ## Expansion -/

namespace Environment

/-- What is put in for a piece, where its variable is set. -/
def filled (env : Environment) (p : Piece) : List Char :=
  p.segment.filled env

/-- No variable has the empty name. -/
theorem get?_empty (env : Environment) : env.get? "" = none := by
  rfl

/-- **Expansion follows the grammar.**  Every text is written with exactly one sequence of pieces.
    Its expansion is what is put in for the pieces, values as they are and single dollar signs
    kept, exactly if every variable that they refer to is set; else the fault is the leftmost of
    the names that are not set, such as the empty name. -/
theorem expansion_grammar (s : String) :
    (∃! ps, Decomposes ps s.toList) ∧
    ∀ ps, Decomposes ps s.toList → ∀ env : Environment,
      (∀ t, env.expand s = .ok t ↔ (∀ n ∈ ps.filterMap Piece.name?, (env.get? n).isSome) ∧
        t = String.ofList (ps.flatMap env.filled)) ∧
      (∀ e, env.expand s = .error e ↔
        (ps.filterMap Piece.name?).find? (fun n => (env.get? n).isNone) = some e.name) ∧
      env.get? "" = none := by
  constructor
  · obtain ⟨ps, hps⟩ := exists_decomposes s.toList
    exact ⟨ps, hps, fun qs hqs => hqs.unique hps⟩
  · intro ps hps env
    have hnames : (ps.map Piece.segment).filterMap Segment.name? = ps.filterMap Piece.name? :=
      List.filterMap_map
    have hfilled : (ps.map Piece.segment).flatMap (Segment.filled env) = ps.flatMap env.filled :=
      List.flatMap_map _ _ _
    rw [expand, hps.ofChars_eq]
    refine ⟨fun t => ?_, fun e => ?_, env.get?_empty⟩
    · simp only [Fallible.bind_eq_ok, Fallible.pure_eq_ok, Segment.values_eq_ok_iff, hnames, hfilled]
      constructor
      · rintro ⟨_, ⟨hset, rfl⟩, rfl⟩
        exact ⟨hset, rfl⟩
      · rintro ⟨hset, rfl⟩
        exact ⟨_, ⟨hset, rfl⟩, rfl⟩
    · simp only [Fallible.bind_eq_error, Fallible.pure_ne_error, Segment.values_eq_error_iff, hnames,
        and_false, exists_false, or_false]

/-- Two dollar signs in a row, a name that is not ASCII, one in braces with a blank, a dollar sign
    before a blank and a brace that is not closed; values that look like references. -/
theorem expansion_grammar_mixed :
    Decomposes [.text ['a'], .dollar, .bare ['B', '_', '1', 'é'], .text [':'], .braced ['C', ' '],
        .dollar, .text [' '], .unclosed ['E', '$']]
      "a$$B_1é:$\x7bC \x7d$ $\x7bE$".toList ∧
    expand ⟨[("B_1é", "$C"), ("C ", "$\x7bx\x7d"), ("E$", "\x7d")]⟩
      "a$$B_1é:$\x7bC \x7d$ $\x7bE$" = .ok "a$$C:$\x7bx\x7d$ \x7d" ∧
    expand ⟨[("E$", "\x7d"), ("B_1é", "$C")]⟩ "a$$B_1é:$\x7bC \x7d$ $\x7bE$" =
      .error ⟨"C "⟩ := by
  have hps : Decomposes [.text ['a'], .dollar, .bare ['B', '_', '1', 'é'], .text [':'],
      .braced ['C', ' '], .dollar, .text [' '], .unclosed ['E', '$']]
      "a$$B_1é:$\x7bC \x7d$ $\x7bE$".toList := by
    have htext : "a$$B_1é:$\x7bC \x7d$ $\x7bE$".toList =
        [.text ['a'], .dollar, .bare ['B', '_', '1', 'é'], .text [':'], .braced ['C', ' '],
          .dollar, .text [' '], .unclosed ['E', '$']].flatMap Piece.chars := by
      decide +kernel
    rw [htext]
    refine .cons (by decide +kernel) (.cons (by decide +kernel) ?_)
    refine .cons (by decide +kernel) (.cons (by decide +kernel) ?_)
    refine .cons (by decide +kernel) (.cons (by decide +kernel) ?_)
    exact .cons (by decide +kernel) (.cons (by decide +kernel) .nil)
  obtain ⟨-, hexpand⟩ := expansion_grammar "a$$B_1é:$\x7bC \x7d$ $\x7bE$"
  refine ⟨hps, ?_, ?_⟩
  · exact ((hexpand _ hps _).1 _).2 ⟨by decide +kernel, by decide +kernel⟩
  · exact ((hexpand _ hps _).2.1 _).2 (by decide +kernel)

end Environment

end EnergyQuery
