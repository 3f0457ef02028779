/-
  Reading a written statement.

  A double quote opens a quoted identifier, a single quote a string literal;
  either is read up to its own delimiter, where that stands alone.  All else is
  ordinary text.

  * `lex` takes a text apart; it fails on a quoted text that is never closed;
  * `lex_quoted`: what is written between delimiters is read back, unless the
    same delimiter follows;
  * `Statement.Spelled.lex_render`: a spelled statement is read token by token.
    No two of its tokens that are free texts touch each other (`Spaced`), so
    that no delimiter of one can meet that of another;
  * `Restated.exists_readsAs`: what is quoted in a spelled text is among the
    names and literals that it is spelled with.
-/
import EnergyQuery.Proofs.Fallible
import EnergyQuery.Proofs.Sql.Quoting
import EnergyQuery.Proofs.Sql.Spelling
import Mathlib.Data.List.Chain

namespace EnergyQuery.Sql

/-! ## Lexemes -/

/-- A quoted text, given by its content, or any other character. -/
inductive Lexeme where
  | quoted (d : Delimiter) (content : String)
  | other (c : Char)
  deriving DecidableEq, Repr

namespace Lexeme

/-- The lexeme without its content, if it is quoted with `d`. -/
def without (d : Delimiter) : Lexeme → Lexeme
  | quoted e t => if e = d then quoted e "" else quoted e t
  | other c => other c

/-- The content of a lexeme that is quoted with `d`. -/
def content? (d : Delimiter) : Lexeme → Option String
  | quoted e t => if e = d then some t else none
  | other _ => none

end Lexeme

/-- The characters of a text, one by one. -/
def others (s : String) : List Lexeme :=
  s.toList.map .other

/-- The contents of all lexemes that are quoted with `d`. -/
def contents (d : Delimiter) (l : List Lexeme) : List String :=
  l.filterMap (Lexeme.content? d)

section
variable {d : Delimiter} {l m : List Lexeme}

@[simp] theorem contents_append : contents d (l ++ m) = contents d l ++ contents d m :=
  List.filterMap_append

@[simp] theorem contents_others {s : String} : contents d (others s) = [] := by
  rw [contents, others, List.filterMap_map]
  exact List.filterMap_eq_nil_iff.2 fun _ _ => rfl

theorem contents_quoted {e : Delimiter} {s : String} :
    contents d [.quoted e s] = if e = d then [s] else [] := by
  by_cases h : e = d <;> simp [contents, Lexeme.content?, h]

end

/-- The lexemes of a text, if every quoted text in it is closed. -/
def lex : List Char → Option (List Lexeme)
  | [] => some []
  | c :: s =>
    match Delimiter.ofChar? c with
    | none => (lex s).map (.other c :: ·)
    | some d =>
      match _h : readQuoted d.mark s with
      | none => none
      | some p => (lex p.2).map (.quoted d (String.ofList p.1) :: ·)
termination_by s => s.length
decreasing_by
  · simp
  · have hlt := length_readQuoted_lt _h
    simp only [List.length_cons]
    omega

/-- **The contents of quoted texts stand in the text that they are read from.** -/
theorem mem_of_mem_contents {d : Delimiter} {x : String} {c : Char} {s : List Char}
    {l : List Lexeme} (h : lex s = some l) (hx : x ∈ contents d l) (hc : c ∈ x.toList) : c ∈ s := by
  fun_induction lex s generalizing l with
  | case1 =>
    obtain rfl : [] = l := by simpa using h
    simp [contents] at hx
  | case2 a s ha ih =>
    obtain ⟨m, hm, rfl⟩ := Option.map_eq_some_iff.1 h
    exact List.mem_cons_of_mem _ (ih hm (by simpa [contents, Lexeme.content?] using hx))
  | case3 => simp at h
  | case4 a s e ha p hp ih =>
    obtain ⟨m, hm, rfl⟩ := Option.map_eq_some_iff.1 h
    refine List.mem_cons_of_mem _ (mem_of_readQuoted hp ?_)
    have hsplit : x ∈ contents d [.quoted e (String.ofList p.1)] ++ contents d m := by
      rwa [← contents_append]
    rw [List.mem_append, contents_quoted] at hsplit
    rcases hsplit with hx | hx
    · split at hx
      · obtain rfl := List.mem_singleton.1 hx
        exact List.mem_append_left _ (by simpa using hc)
      · simp at hx
    · exact List.mem_append_right _ (ih hm hx)

/-! ## Quoted texts -/

section
variable {q : Char} {d : Delimiter} {s rest : List Char} {l : List Lexeme}

theorem lex_other {c : Char} (h : Delimiter.ofChar? c = none) :
    lex (c :: s) = (lex s).map (.other c :: ·) := by
  rw [lex]
  split
  · rfl
  · next d hd => simp [h] at hd

/-- **What is written between delimiters is read back.** -/
theorem lex_quoted {t : String} (h : rest.head? ≠ some d.mark) :
    lex ((Text.quoted d.mark t).toList ++ rest) = (lex rest).map (.quoted d t :: ·) := by
  rw [Text.quoted, String.toList_ofList, List.cons_append, List.append_assoc, List.singleton_append,
    lex]
  split
  · next hnone => simp [Delimiter.ofChar?_mark] at hnone
  · next e he =>
    obtain rfl : d = e := by simpa [Delimiter.ofChar?_mark] using he
    split
    · next hnone => simp [readQuoted_double h] at hnone
    · next p hp =>
      obtain rfl : (t.toList, rest) = p := by simpa [readQuoted_double h] using hp
      rw [String.ofList_toList]

/-! ## Texts one after the other -/

/-- No character opens a quoted text. -/
def DelimiterFree (s : List Char) : Prop :=
  ∀ c ∈ s, Delimiter.ofChar? c = none

instance : Decidable (DelimiterFree s) :=
  List.decidableBAll (fun c => Delimiter.ofChar? c = none) s

/-- `t` is read as `l`, whatever follows, unless that begins with a delimiter. -/
def ReadsAs (t : String) (l : List Lexeme) : Prop :=
  ∀ rest, (∀ c ∈ rest.head?, Delimiter.ofChar? c = none) →
    lex (t.toList ++ rest) = (lex rest).map (l ++ ·)

/-- The lexemes of a text that can be read, none of any other. -/
def lexemes (t : String) : List Lexeme :=
  (lex t.toList).getD []

theorem lex_append_of_delimiterFree (h : DelimiterFree s) :
    lex (s ++ rest) = (lex rest).map (s.map .other ++ ·) := by
  induction s with
  | nil => simp
  | cons c s ih =>
    rw [List.cons_append, lex_other (h c (by simp)), ih fun c hc => h c (List.mem_cons_of_mem _ hc),
      Option.map_map]
    rfl

theorem Ordinary.delimiterFree {t : String} (h : Ordinary t) : DelimiterFree t.toList := by
  intro c hc
  have hordinary : isOrdinary c = true := List.all_eq_true.1 h c hc
  simp only [isOrdinary, Bool.and_eq_true, bne_iff_ne] at hordinary
  simp [Delimiter.ofChar?, hordinary]

theorem ReadsAs.lex_eq {t : String} (h : ReadsAs t l) : lex t.toList = some l := by
  simpa [lex] using h [] (by simp)

theorem ReadsAs.lexemes_eq {t : String} (h : ReadsAs t l) : lexemes t = l := by
  rw [lexemes, h.lex_eq, Option.getD_some]

theorem readsAs_of_delimiterFree {t : String} (h : DelimiterFree t.toList) :
    ReadsAs t (others t) :=
  fun _ _ => lex_append_of_delimiterFree h

theorem readsAs_quoted (d : Delimiter) (t : String) :
    ReadsAs (Text.quoted d.mark t) [.quoted d t] := by
  intro rest hrest
  refine lex_quoted fun hmark => ?_
  simpa [Delimiter.ofChar?_mark] using hrest d.mark hmark

/-- Two texts are read one after the other if something stands between them that is no delimiter. -/
theorem ReadsAs.join {t u between : String} {m : List Lexeme} (ht : ReadsAs t l)
    (hb : DelimiterFree between.toList) (hne : between ≠ "") (hu : ReadsAs u m) :
    ReadsAs (t ++ between ++ u) (l ++ others between ++ m) := by
  intro rest hrest
  obtain ⟨c, cs, hcs⟩ := List.exists_cons_of_ne_nil (mt String.toList_eq_nil_iff.1 hne)
  rw [String.toList_append, String.toList_append, List.append_assoc, List.append_assoc, ht,
    lex_append_of_delimiterFree hb, hu rest hrest]
  · simp [others, Option.map_map, Function.comp_def]
  · intro c' hc'
    obtain rfl : c = c' := by simpa [hcs] using hc'
    exact hb c (by simp [hcs])

theorem ReadsAs.before {t u : String} (ht : DelimiterFree t.toList) (hu : ReadsAs u l) :
    ReadsAs (t ++ u) (others t ++ l) := by
  intro rest hrest
  rw [String.toList_append, List.append_assoc, lex_append_of_delimiterFree ht, hu rest hrest,
    Option.map_map]
  simp [others, Function.comp_def]

theorem ReadsAs.after {t u : String} (ht : ReadsAs t l) (hu : DelimiterFree u.toList)
    (hne : u ≠ "") : ReadsAs (t ++ u) (l ++ others u) := by
  simpa [others] using ht.join hu hne (readsAs_of_delimiterFree (by decide : DelimiterFree "".toList))

/-- The texts that a statement may quote with a delimiter, given its names and its literals. -/
def Delimiter.Admits (N L : String → Prop) : Delimiter → String → Prop
  | name => N
  | literal => L

/-- A text in which names, literals and placeholders are kept apart can be read, and its contents are
    admitted. -/
theorem Restated.exists_readsAs {N L : String → Prop} {w : Window} {s s' : String}
    (h : Restated N L w s s') : ∃ l, ReadsAs s l ∧ ∀ e, ∀ x ∈ contents e l, e.Admits N L x := by
  have hquoted (e : Delimiter) {x : String} (hx : e.Admits N L x) :
      ∀ f, ∀ y ∈ contents f [.quoted e x], f.Admits N L y := by
    intro f y hy
    rw [contents_quoted] at hy
    split at hy
    · next hef =>
      obtain rfl := List.mem_singleton.1 hy
      exact hef ▸ hx
    · simp at hy
  induction h with
  | ordinary h => exact ⟨_, readsAs_of_delimiterFree h.delimiterFree, by simp⟩
  | name h => exact ⟨_, readsAs_quoted .name _, hquoted .name h⟩
  | literal h => exact ⟨_, readsAs_quoted .literal _, hquoted .literal h⟩
  | filter | start | stop => exact ⟨_, readsAs_of_delimiterFree (by decide), by simp⟩
  | join _ hb hne _ ihs iht =>
    obtain ⟨l, hl, hls⟩ := ihs
    obtain ⟨m, hm, hms⟩ := iht
    refine ⟨_, hl.join hb.delimiterFree hne hm, fun e x hx => ?_⟩
    simp only [contents_append, contents_others, List.append_nil, List.mem_append] at hx
    exact hx.elim (hls e x) (hms e x)

/-- A text without names and literals has no delimiter. -/
theorem Restated.delimiterFree {w : Window} {t t' : String}
    (h : Restated (fun _ => False) (fun _ => False) w t t') : DelimiterFree t.toList := by
  induction h with
  | ordinary h => exact h.delimiterFree
  | name h | literal h => exact h.elim
  | filter | start | stop => decide
  | join _ hb _ _ ihs iht =>
    simp only [String.toList_append, DelimiterFree, List.mem_append]
    rintro c ((hc | hc) | hc)
    · exact ihs c hc
    · exact hb.delimiterFree c hc
    · exact iht c hc

end

/-! ## Tokens -/

namespace Token

/-- Keywords, punctuation and the blank. -/
def isFixed : Token → Bool
  | name _ | number _ | raw _ => false
  | _ => true

/-- The lexemes that a token is written from. -/
def lexemes (t : Token) : List Lexeme :=
  Sql.lexemes t.text

theorem delimiterFree_of_isFixed {t : Token} (h : t.isFixed = true) :
    DelimiterFree t.text.toList ∧ t.text ≠ "" := by
  cases t with
  | name | number | raw => simp [isFixed] at h
  | _ => exact ⟨by decide, by decide⟩

end Token

/-- Of two tokens next to each other, one is fixed. -/
def Spaced (ts : List Token) : Prop :=
  ts.IsChain fun t u => t.isFixed = true ∨ u.isFixed = true

section
variable {ts us : List Token} {t : Token}

/-- **Spaced tokens are read one by one.** -/
theorem Spaced.readsAs (hs : Spaced ts) (ht : ∀ t ∈ ts, ReadsAs t.text t.lexemes) :
    ReadsAs (Token.render ts) (ts.flatMap Token.lexemes) := by
  induction ts with
  | nil => exact readsAs_of_delimiterFree (by decide)
  | cons t ts ih =>
    have hmore := ih hs.tail fun u hu => ht u (List.mem_cons_of_mem _ hu)
    intro rest hrest
    have hrender : (Token.render (t :: ts)).toList ++ rest =
        t.text.toList ++ ((Token.render ts).toList ++ rest) := by
      simp [Token.render_cons]
    -- what follows a free text begins with a fixed token, or stands after the last one
    have hlex : lex (t.text.toList ++ ((Token.render ts).toList ++ rest)) =
        (lex ((Token.render ts).toList ++ rest)).map (t.lexemes ++ ·) := by
      by_cases hfixed : t.isFixed = true
      · have hfree := (Token.delimiterFree_of_isFixed hfixed).1
        rw [lex_append_of_delimiterFree hfree, Token.lexemes,
          (readsAs_of_delimiterFree hfree).lexemes_eq, others]
      · refine ht t (by simp) _ ?_
        cases ts with
        | nil => exact hrest
        | cons u us =>
          have hu : u.isFixed = true := (List.isChain_cons_cons.1 hs).1.resolve_left hfixed
          obtain ⟨hfree, hne⟩ := Token.delimiterFree_of_isFixed hu
          obtain ⟨c, cs, hcs⟩ := List.exists_cons_of_ne_nil (mt String.toList_eq_nil_iff.1 hne)
          intro c' hc'
          obtain rfl : c = c' := by simpa [Token.render_cons, hcs] using hc'
          exact hfree c (by simp [hcs])
    rw [hrender, hlex, hmore rest hrest, Option.map_map]
    simp [Function.comp_def]

/-- Tokens that can stand after any others. -/
def Attachable (ts : List Token) : Prop :=
  Spaced ts ∧ ∀ t ∈ ts.head?, t.isFixed = true

theorem Spaced.append (hs : Spaced ts) (hu : Attachable us) : Spaced (ts ++ us) :=
  List.isChain_append.2 ⟨hs, hu.1, fun _ _ u hmem => .inr (hu.2 u hmem)⟩

theorem Spaced.attachable_cons (ht : t.isFixed = true) (hs : Spaced ts) : Attachable (t :: ts) := by
  refine ⟨?_, by simpa using ht⟩
  cases ts with
  | nil => exact List.isChain_singleton t
  | cons u us => exact List.isChain_cons_cons.2 ⟨.inl ht, hs⟩

/-- Any spaced tokens can stand after fixed ones. -/
theorem Spaced.attachable_append (hs : Spaced ts) :
    ∀ us : List Token, (∀ u ∈ us, u.isFixed = true) → us ≠ [] → Attachable (us ++ ts)
  | [u], hu, _ => attachable_cons (hu u (by simp)) hs
  | u :: v :: us, hu, _ =>
    attachable_cons (hu u (by simp))
      (hs.attachable_append (v :: us) (fun w hw => hu w (List.mem_cons_of_mem u hw)) (by simp)).1

theorem attachable_nil : Attachable [] :=
  ⟨List.isChain_nil, by simp⟩

theorem Attachable.append (hs : Attachable ts) (hu : Attachable us) : Attachable (ts ++ us) := by
  refine ⟨hs.1.append hu, ?_⟩
  cases ts with
  | nil => exact hu.2
  | cons t ts => exact hs.2

theorem attachable_flatMap {α : Type} {f : α → List Token} :
    ∀ {l : List α}, (∀ x ∈ l, Attachable (f x)) → Attachable (l.flatMap f)
  | [], _ => attachable_nil
  | x :: l, h => by
    rw [List.flatMap_cons]
    exact (h x (by simp)).append (attachable_flatMap fun y hy => h y (List.mem_cons_of_mem _ hy))

theorem spaced_separated : ∀ {ls : List (List Token)}, (∀ ts ∈ ls, Spaced ts) →
    Spaced (Token.separated [.comma, .space] ls)
  | [], _ => List.isChain_nil
  | [ts], h => h ts (by simp)
  | ts :: us :: ls, h => by
    have hmore := spaced_separated fun vs hvs => h vs (List.mem_cons_of_mem ts hvs)
    rw [Token.separated, List.append_assoc]
    · exact (h ts (by simp)).append (hmore.attachable_append _ (by decide) (by decide))
    · simp

end

/-! ## Statements -/

theorem Field.spaced_tokens (f : Field) : Spaced f.tokens := by
  unfold tokens
  split <;> simp [Spaced, Token.isFixed]

theorem spaced_selectTokens {fields : List Field} {source : Option (List Token)}
    {joins : List Join} {clauses : List Clause} (hs : ∀ ts ∈ source, Spaced ts) :
    Attachable (selectTokens fields source joins clauses) := by
  have hfields : Spaced (Token.separated [.comma, .space] (fields.map Field.tokens)) := by
    refine spaced_separated fun ts hts => ?_
    obtain ⟨f, -, rfl⟩ := List.mem_map.1 hts
    exact f.spaced_tokens
  have hselect := hfields.attachable_append [.kwSelect, .space] (by decide) (by decide)
  refine ((hselect.append ?_).append ?_).append ?_
  · cases source with
    | none => exact attachable_nil
    | some ts => exact (hs ts rfl).attachable_append _ (by decide) (by decide)
  · exact attachable_flatMap fun j _ =>
      Spaced.attachable_cons rfl (by simp [Spaced, Join.tokens, Token.isFixed])
  · split
    · exact attachable_nil
    · refine (attachable_flatMap fun c _ => ?_).1.attachable_append _ (by decide) (by decide)
      exact Spaced.attachable_cons rfl (List.isChain_singleton _)

theorem Source.spaced_tokens (s : Source) : Spaced s.tokens := by
  cases s with
  | relation t | buckets unit step w name => exact List.isChain_singleton _
  | derived c name =>
    have hchain : Attachable c.tokens :=
      spaced_selectTokens fun ts hts => by
        obtain rfl : [Token.raw c.anchor] = ts := by simpa using hts
        exact List.isChain_singleton _
    have hopen : Spaced [Token.leftParen] := List.isChain_singleton _
    refine (Spaced.append hopen hchain).append ?_
    exact ⟨by simp [Spaced, Token.isFixed], by simp [Token.isFixed]⟩

namespace Statement

mutual

/-- **In a written statement no two free texts touch each other.** -/
theorem attachable_tokens : ∀ {s : Statement} {ts : List Token}, s.tokens = .ok ts → Attachable ts
  | ⟨_, ctes, fields, source, joins, clauses⟩, ts, h => by
    rw [tokens] at h
    obtain ⟨staged, hctes, h⟩ := Fallible.bind_eq_ok.1 h
    obtain rfl := Fallible.pure_eq_ok.1 h
    refine Attachable.append ?_ (spaced_selectTokens fun ts hts => ?_)
    · unfold withTokens
      split
      · exact attachable_nil
      · have hstaged := spaced_separated (spaced_ctesTokens hctes)
        exact (hstaged.attachable_append [.kwWith, .space] (by decide) (by decide)).append
          (Spaced.attachable_cons rfl List.isChain_nil)
    · obtain ⟨s, -, rfl⟩ := Option.map_eq_some_iff.1 hts
      exact s.spaced_tokens

theorem spaced_ctesTokens : ∀ {ctes : List Statement} {ls : List (List Token)},
    ctesTokens ctes = .ok ls → ∀ ts ∈ ls, Spaced ts
  | [], ls, h => by
    obtain rfl : [] = ls := by simpa [ctesTokens] using h
    simp
  | s :: more, ls, h => by
    rw [ctesTokens] at h
    obtain ⟨body, hs, h⟩ := Fallible.bind_eq_ok.1 h
    cases hn : s.name with
    | none => simp [hn] at h
    | some n =>
      rw [hn] at h
      obtain ⟨rest, hmore, h⟩ := Fallible.bind_eq_ok.1 h
      obtain rfl := Fallible.pure_eq_ok.1 h
      rw [List.forall_mem_cons]
      refine ⟨?_, spaced_ctesTokens hmore⟩
      refine Spaced.append (Spaced.append ?_ (attachable_tokens hs)) ?_
      · simp [Spaced, Token.isFixed]
      · exact Spaced.attachable_cons rfl List.isChain_nil

end

/-- **A spelled statement is read token by token.** -/
theorem Spelled.lex_render {N L : String → Prop} {s : Statement} (h : s.Spelled N L) :
    ∃ ts, s.tokens = .ok ts ∧ s.render = .ok (Token.render ts) ∧
      lex (Token.render ts).toList = some (ts.flatMap Token.lexemes) := by
  obtain ⟨ts, us, hts, -, hrel⟩ := h.exists_tokens (w := .selected)
  refine ⟨ts, hts, by rw [render, hts]; rfl, ?_⟩
  refine ((attachable_tokens hts).1.readsAs fun t ht => ?_).lex_eq
  obtain ⟨i, hi, rfl⟩ := List.getElem_of_mem ht
  have hrestated := hrel.get hi (hrel.length_eq ▸ hi)
  rw [List.get_eq_getElem] at hrestated
  obtain ⟨l, hl, -⟩ := hrestated.text.exists_readsAs
  rw [Token.lexemes, hl.lexemes_eq]
  exact hl

end Statement

end EnergyQuery.Sql
