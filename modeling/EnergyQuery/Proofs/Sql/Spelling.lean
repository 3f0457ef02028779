/-
  How the texts of a statement are spelled.

  Most of a statement is written with ordinary characters: no delimiter, no
  dollar sign, no line break.  What comes from outside stands between
  delimiters, as a name or a literal, and the window of a statement may be
  written as placeholders.  No two of these parts touch each other.

  * `Restated N L w s t`: `s` is made of ordinary characters, names in `N`,
    literals in `L` and placeholders, and `t` is `s` with the placeholders
    written for the window `w`;
  * `Statement.Spelled`: every text in a statement is of this kind, and every
    common table expression has a name;
  * `Statement.Spelled.exists_tokens`: such a statement can be written, and
    token by token it is restated for another window.
-/
import EnergyQuery.Sql.Statement
import Mathlib.Data.List.Forall2

namespace EnergyQuery.Sql

/-! ## Characters -/

/-- A character without a part of its own: no delimiter, no dollar sign, no line break. -/
def isOrdinary (c : Char) : Bool :=
  c != '"' && c != '\x27' && c != '$' && c != '\n'

/-- A text without delimiters, dollar signs and line breaks. -/
def Ordinary (s : String) : Prop :=
  s.toList.all isOrdinary = true

instance {s : String} : Decidable (Ordinary s) :=
  inferInstanceAs (Decidable (_ = true))

/-- Letters, digits and underscores. -/
def IsWord (s : String) : Prop :=
  s.toList.all (fun c => c.isAlphanum || c == '_') = true

instance {s : String} : Decidable (IsWord s) :=
  inferInstanceAs (Decidable (_ = true))

section
variable {s t : String} {c : Char} {n : Nat}

theorem isOrdinary_of_isAlphanum (h : c.isAlphanum = true) : isOrdinary c = true := by
  simp only [isOrdinary, Bool.and_eq_true, bne_iff_ne]
  refine ⟨⟨⟨?_, ?_⟩, ?_⟩, ?_⟩ <;> rintro rfl <;> simp at h

theorem Ordinary.append (hs : Ordinary s) (ht : Ordinary t) : Ordinary (s ++ t) := by
  rw [Ordinary, String.toList_append, List.all_append, Bool.and_eq_true]
  exact ⟨hs, ht⟩

theorem IsWord.append (hs : IsWord s) (ht : IsWord t) : IsWord (s ++ t) := by
  rw [IsWord, String.toList_append, List.all_append, Bool.and_eq_true]
  exact ⟨hs, ht⟩

theorem IsWord.ordinary (h : IsWord s) : Ordinary s := by
  refine List.all_eq_true.2 fun c hc => ?_
  have hword : c.isAlphanum = true ∨ c = '_' := by simpa using List.all_eq_true.1 h c hc
  rcases hword with hword | rfl
  · exact isOrdinary_of_isAlphanum hword
  · rfl

theorem isDigit_of_mem_toString (h : c ∈ (toString n).toList) : c.isDigit = true :=
  Nat.isDigit_of_mem_toDigits (b := 10) (n := n) (by decide) (by decide) (by simpa using h)

theorem isWord_toString : IsWord (toString n) := by
  refine List.all_eq_true.2 fun c hc => ?_
  simp [Char.isAlphanum, isDigit_of_mem_toString hc]

theorem Ordinary.intercalate (hs : Ordinary s) :
    ∀ {l : List String}, (∀ t ∈ l, Ordinary t) → Ordinary (s.intercalate l)
  | [], _ => rfl
  | [t], h => by
    rw [String.intercalate_singleton]
    exact h t (by simp)
  | t :: u :: l, h => by
    rw [String.intercalate_cons_cons]
    exact ((h t (by simp)).append hs).append
      (Ordinary.intercalate hs fun v hv => h v (List.mem_cons_of_mem _ hv))

theorem ordinary_decimalText {digits places : Nat} : Ordinary (decimalText digits places) := by
  unfold decimalText
  split
  · exact isWord_toString.ordinary
  · have hcs : ∀ c ∈ List.replicate (places + 1 - (toString digits).toList.length) '0' ++
        (toString digits).toList, isOrdinary c = true := by
      intro c hc
      rcases List.mem_append.1 hc with hc | hc
      · obtain rfl := List.eq_of_mem_replicate hc
        rfl
      · exact List.all_eq_true.1 isWord_toString.ordinary c hc
    refine List.all_eq_true.2 fun c hc => ?_
    rw [String.toList_ofList, List.mem_append, List.mem_cons] at hc
    rcases hc with hc | rfl | hc
    · exact hcs c (List.mem_of_mem_take hc)
    · rfl
    · exact hcs c (List.mem_of_mem_drop hc)

end

/-! ## Texts -/

/-- `s` is made of ordinary characters, of names in `N`, of literals in `L` and of placeholders, and
    `t` is `s` with the placeholders written for `w`.  Ordinary characters stand between any two of
    the other parts. -/
inductive Restated (N L : String → Prop) (w : Window) : String → String → Prop
  | ordinary {s : String} : Ordinary s → Restated N L w s s
  | name {n : String} : N n → Restated N L w (Text.quoteName n) (Text.quoteName n)
  | literal {l : String} : L l → Restated N L w (Text.quoteLiteral l) (Text.quoteLiteral l)
  | filter : Restated N L w Window.selected.filter w.filter
  | start : Restated N L w Window.selected.start w.start
  | stop : Restated N L w Window.selected.stop w.stop
  | join {s s' t t' between : String} : Restated N L w s s' → Ordinary between → between ≠ "" →
      Restated N L w t t' → Restated N L w (s ++ between ++ t) (s' ++ between ++ t')

section
variable {N L : String → Prop} {w : Window} {s s' t : String}

namespace Restated

theorem before (ht : Ordinary t) (h : Restated N L w s s') : Restated N L w (t ++ s) (t ++ s') := by
  by_cases hempty : t = ""
  · simpa [hempty] using h
  · simpa using join (ordinary (by decide : Ordinary "")) ht hempty h

theorem after (h : Restated N L w s s') (ht : Ordinary t) : Restated N L w (s ++ t) (s' ++ t) := by
  by_cases hempty : t = ""
  · simpa [hempty] using h
  · simpa using join h ht hempty (ordinary (by decide : Ordinary ""))

theorem interval (h : L s) : Restated N L w (intervalText s) (intervalText s) :=
  before (by decide) (literal h)

theorem enclose {least : Nat} {e : Expr} (h : Restated N L w s s) :
    Restated N L w (e.enclose least s) (e.enclose least s) := by
  unfold Expr.enclose
  split
  · exact (before (by decide) h).after (by decide)
  · exact h

end Restated

/-! ## Expressions -/

/-- A plain name is a word, a quoted one is in `N`. -/
def Name.Spelled (N : String → Prop) : Name → Prop
  | plain t => IsWord t
  | quoted t => N t

theorem Name.Spelled.restated {n : Name} (h : n.Spelled N) : Restated N L w n.text n.text := by
  cases n with
  | plain t => exact .ordinary (IsWord.ordinary h)
  | quoted t => exact .name h

/-- Relations and columns are words, quoted names are in `N`, and literals in `L`. -/
def Expr.Spelled (N L : String → Prop) : Expr → Prop
  | verbatim _ => False
  | column n => n.Spelled N
  | ref r n => IsWord r ∧ IsWord n
  | number _ _ => True
  | interval s => L s
  | firstOf rs n => (∀ r ∈ rs, IsWord r) ∧ IsWord n
  | truncated u e => L u.name ∧ e.Spelled N L
  | add l r | sub l r | mul l r | div l r | flagAbove l r => l.Spelled N L ∧ r.Spelled N L
  | neg e | max e | min e | orZero e | positivePart e | nullIfZero e | compact e => e.Spelled N L

theorem Restated.operator {sp : Spacing} {op u u' : String} (ho : Ordinary op) (hne : op ≠ "")
    (hs : Restated N L w s s') (hu : Restated N L w u u') :
    Restated N L w (s ++ sp.operator op ++ u) (s' ++ sp.operator op ++ u') := by
  cases sp with
  | wide =>
    exact join hs (((by decide : Ordinary " ").append ho).append (by decide))
      (by simp [Spacing.operator]) hu
  | tight => exact join hs ho hne hu

theorem Spacing.ordinary_comma {sp : Spacing} : Ordinary sp.comma := by
  cases sp <;> decide

/-- The written form of an expression is made of the parts that it is spelled with. -/
theorem Expr.Spelled.restated {e : Expr} {sp : Spacing} (h : e.Spelled N L) :
    Restated N L w (e.write sp) (e.write sp) := by
  induction e generalizing sp with
  | verbatim t => exact h.elim
  | column n => exact Name.Spelled.restated h
  | ref r n => exact .ordinary ((h.1.ordinary.append (by decide)).append h.2.ordinary)
  | number d p => exact .ordinary ordinary_decimalText
  | interval s => exact .interval h
  | add l r ihl ihr | sub l r ihl ihr =>
    exact .operator (by decide) (by decide) (ihl h.1) (ihr h.2).enclose
  | mul l r ihl ihr | div l r ihl ihr =>
    exact .operator (by decide) (by decide) (ihl h.1).enclose (ihr h.2).enclose
  | neg e ih => exact .before (by decide) (ih h).enclose
  | max e ih | min e ih => exact (Restated.before (by decide) (ih h)).after (by decide)
  | orZero e ih | positivePart e ih | nullIfZero e ih =>
    exact ((Restated.before (by decide) (ih h)).after Spacing.ordinary_comma).after (by decide)
  | flagAbove e t ihe iht =>
    exact (Restated.join (.before (by decide) (ihe h.1)) (by decide) (by decide) (iht h.2)).after
      (by decide)
  | firstOf rs n =>
    refine .ordinary (((by decide : Ordinary "COALESCE(").append ?_).append (by decide))
    refine Ordinary.intercalate Spacing.ordinary_comma fun t ht => ?_
    obtain ⟨r, hr, rfl⟩ := List.mem_map.1 ht
    exact ((h.1 r hr).ordinary.append (by decide)).append h.2.ordinary
  | truncated u e ih =>
    refine (Restated.join (.before (by decide) (.literal h.1)) Spacing.ordinary_comma ?_
      (ih h.2)).after (by decide)
    cases sp <;> decide
  | compact e ih => exact ih h

namespace Expr

theorem spelled_foldl_extend {l : List (Sign × Expr)} :
    ∀ {e : Expr}, e.Spelled N L → (∀ t ∈ l, t.2.Spelled N L) →
      (l.foldl (fun total term => term.1.extend total term.2) e).Spelled N L := by
  induction l with
  | nil => exact fun h _ => h
  | cons t l ih =>
    intro e h ht
    rw [List.foldl_cons]
    refine ih ?_ fun u hu => ht u (List.mem_cons_of_mem _ hu)
    have hhead := ht t (by simp)
    obtain ⟨sign, u⟩ := t
    cases sign with
    | plus | minus => exact ⟨h, hhead⟩

theorem spelled_signedSum {l : List (Sign × Expr)} (hne : l ≠ [])
    (h : ∀ t ∈ l, t.2.Spelled N L) : (signedSum l).Spelled N L := by
  match l, hne with
  | (sign, e) :: more, _ =>
    refine spelled_foldl_extend ?_ fun u hu => h u (List.mem_cons_of_mem _ hu)
    have hhead : e.Spelled N L := h (sign, e) (by simp)
    cases sign with
    | plus | minus => exact hhead

theorem spelled_sum {l : List Expr} (hne : l ≠ []) (h : ∀ e ∈ l, e.Spelled N L) :
    (sum l).Spelled N L := by
  refine spelled_signedSum (by simpa using hne) fun t ht => ?_
  obtain ⟨e, he, rfl⟩ := List.mem_map.1 ht
  exact h e he

theorem spelled_spanSum {l : List (Sign × Expr)} (hne : l ≠ [])
    (h : ∀ t ∈ l, t.2.Spelled N L) : (spanSum l).Spelled N L := by
  refine spelled_signedSum ?_ fun t ht => ?_
  · match l, hne with
    | t :: more, _ => simp [spanTerms]
  · obtain ⟨u, hu, ht⟩ := List.mem_flatMap.1 ht
    obtain rfl | rfl : t = (u.1, .orZero (.max u.2)) ∨ t = (u.1.opposite, .orZero (.min u.2)) := by
      simpa [spanTerms] using ht
    all_goals exact h u hu

end Expr

/-! ## Parts of a statement -/

/-- The expression and the name are spelled with the names in `N` and the literals in `L`. -/
def Field.Spelled (N L : String → Prop) (f : Field) : Prop :=
  f.expr.Spelled N L ∧ f.name.Spelled N

/-- The kind is no text from outside. -/
def JoinKind.Spelled : JoinKind → Prop
  | verbatim _ => False
  | fullOuter | leftOuter => True

/-- Both sides are spelled with the names in `N` and the literals in `L`. -/
def Condition.Spelled (N L : String → Prop) : Condition → Prop
  | equal l r => l.Spelled N L ∧ r.Spelled N L
  | verbatim _ => False

/-- The parts of the join are spelled with the names in `N` and the literals in `L`, and both names
    of the relation are words. -/
structure Join.Spelled (N L : String → Prop) (j : Join) : Prop where
  kind : j.kind.Spelled
  relation : IsWord j.relation
  alias? : ∀ a, j.alias? = some a → IsWord a
  condition : j.condition.Spelled N L

/-- The relations of the clause are words, its literals are in `L`, and its window is the selected
    one. -/
def Clause.Spelled (L : String → Prop) : Clause → Prop
  | verbatim _ => False
  | inWindow w => w = .selected
  | timePresent (some r) | fromFirst r => IsWord r
  | beforeLast r edge margin => IsWord r ∧ IsWord edge ∧ L margin
  | timePresent none | conjunction | device _ | groupedByFirst | orderedByTime => True

/-- The parts of the chain are spelled with the names in `N` and the literals in `L`, and the anchor
    is a word. -/
structure Chain.Spelled (N L : String → Prop) (c : Chain) : Prop where
  fields : ∀ f ∈ c.fields, f.Spelled N L
  anchor : IsWord c.anchor
  joins : ∀ j ∈ c.joins, j.Spelled N L

/-- The relations of the source are words, its literals are in `L`, and its window is the selected
    one. -/
def Source.Spelled (N L : String → Prop) : Source → Prop
  | relation t => IsWord t
  | derived c name => c.Spelled N L ∧ IsWord name
  | buckets unit step w name => L unit.name ∧ L step ∧ w = .selected ∧ IsWord name

theorem Condition.Spelled.restated {c : Condition} (h : c.Spelled N L) :
    Restated N L w c.text c.text := by
  cases c with
  | equal l r => exact .join h.1.restated (by decide) (by decide) h.2.restated
  | verbatim t => exact h.elim

theorem Join.Spelled.ordinary_target {j : Join} (h : j.Spelled N L) : Ordinary j.target := by
  unfold Join.target
  cases ha : j.alias? with
  | none => exact h.relation.ordinary
  | some a => exact (h.relation.ordinary.append (by decide)).append (h.alias? a ha).ordinary

theorem JoinKind.Spelled.ordinary {k : JoinKind} (h : k.Spelled) : Ordinary k.text := by
  cases k with
  | fullOuter | leftOuter => decide
  | verbatim t => exact h.elim

theorem Clause.Spelled.restated {c : Clause} (h : c.Spelled L) :
    Restated N L w c.text (c.within w).text := by
  cases c with
  | verbatim t => exact h.elim
  | conjunction | groupedByFirst | orderedByTime => exact .ordinary (by decide)
  | device id => exact .ordinary ((by decide : Ordinary "series_id = ").append isWord_toString.ordinary)
  | inWindow v =>
    obtain rfl : v = .selected := h
    exact .filter
  | timePresent r =>
    cases r with
    | none => exact .ordinary (by decide)
    | some r => exact .ordinary (((IsWord.ordinary h).append (by decide)).append (by decide) |>.append (by decide))
  | fromFirst r =>
    exact .ordinary (((by decide : Ordinary "time >= (SELECT MIN(time) FROM ").append
      (IsWord.ordinary h)).append (by decide))
  | beforeLast r edge margin =>
    obtain ⟨hr, hedge, hmargin⟩ := h
    refine .before ?_ (.interval hmargin)
    exact ((((by decide : Ordinary "time < (SELECT MAX(").append hedge.ordinary).append
      (by decide)).append hr.ordinary).append (by decide)

/-! ## Tokens -/

namespace Token

/-- What becomes of a token for another window: only the filter of a clause and the range of a
    bucket source change. -/
inductive Within (w : Window) : Token → Token → Prop
  | same (t : Token) : Within w t t
  | filter : Within w (.raw Window.selected.filter) (.raw w.filter)
  | buckets {unit : TimeUnit} {step name : String} {t u : Token} :
    (Source.buckets unit step .selected name).tokens = [t] →
      (Source.buckets unit step w name).tokens = [u] → Within w t u

/-- A token and what becomes of it for another window, with their texts. -/
structure Restated (N L : String → Prop) (w : Window) (t u : Token) : Prop where
  text : Sql.Restated N L w t.text u.text
  within : t.Within w u

theorem Restated.same {t : Token} (h : Sql.Restated N L w t.text t.text) : t.Restated N L w t :=
  ⟨h, .same t⟩

theorem Restated.ordinary {t : Token} (h : Ordinary t.text) : t.Restated N L w t :=
  .same (.ordinary h)

theorem forall₂_separated {R : Token → Token → Prop} {sep : List Token} (hsep : ∀ t ∈ sep, R t t) :
    ∀ {ls ms : List (List Token)}, List.Forall₂ (List.Forall₂ R) ls ms →
      List.Forall₂ R (separated sep ls) (separated sep ms)
  | _, _, .nil => .nil
  | _, _, .cons h .nil => h
  | _, _, .cons h (.cons h' hs) =>
    List.rel_append (List.rel_append h (List.forall₂_same.2 hsep))
      (forall₂_separated hsep (.cons h' hs))

end Token

theorem Field.Spelled.restated {f : Field} (h : f.Spelled N L) :
    ∀ t ∈ f.tokens, t.Restated N L w t := by
  intro t ht
  simp only [tokens, List.mem_cons] at ht
  rcases ht with rfl | ht
  · exact .same h.1.restated
  · split at ht
    · simp at ht
    · simp only [List.mem_cons, List.not_mem_nil, or_false] at ht
      rcases ht with rfl | rfl | rfl | rfl
      · exact .ordinary (by decide)
      · exact .ordinary (by decide)
      · exact .ordinary (by decide)
      · exact .same h.2.restated

theorem Join.Spelled.restated {j : Join} (h : j.Spelled N L) :
    ∀ t ∈ j.tokens, t.Restated N L w t := by
  intro t ht
  simp only [tokens, List.mem_cons, List.not_mem_nil, or_false] at ht
  rcases ht with rfl | rfl | rfl | rfl | rfl | rfl | rfl | rfl | rfl
  · exact .ordinary h.kind.ordinary
  · exact .ordinary (by decide)
  · exact .ordinary (by decide)
  · exact .ordinary (by decide)
  · exact .ordinary h.ordinary_target
  · exact .ordinary (by decide)
  · exact .ordinary (by decide)
  · exact .ordinary (by decide)
  · exact .same h.condition.restated

/-- Tokens of ordinary characters are the same for every window. -/
theorem restated_of_ordinary {ts : List Token} (h : ∀ t ∈ ts, Ordinary t.text) :
    List.Forall₂ (Token.Restated N L w) ts ts :=
  List.forall₂_same.2 fun t ht => .ordinary (h t ht)

theorem restated_fields {fields : List Field} (h : ∀ f ∈ fields, f.Spelled N L) :
    List.Forall₂ (Token.Restated N L w)
      (Token.separated [.comma, .space] (fields.map Field.tokens))
      (Token.separated [.comma, .space] (fields.map Field.tokens)) := by
  have hseparator : ∀ t ∈ [Token.comma, .space], Ordinary t.text := by decide
  refine Token.forall₂_separated (fun t ht => .ordinary (hseparator t ht)) ?_
  refine List.forall₂_same.2 fun ts hts => ?_
  obtain ⟨f, hf, rfl⟩ := List.mem_map.1 hts
  exact List.forall₂_same.2 (h f hf).restated

theorem restated_joins {joins : List Join} (h : ∀ j ∈ joins, j.Spelled N L) :
    List.Forall₂ (Token.Restated N L w) (joins.flatMap fun j => .space :: j.tokens)
      (joins.flatMap fun j => .space :: j.tokens) := by
  refine List.forall₂_same.2 fun t ht => ?_
  obtain ⟨j, hj, ht⟩ := List.mem_flatMap.1 ht
  rcases List.mem_cons.1 ht with rfl | ht
  · exact .ordinary (by decide)
  · exact (h j hj).restated t ht

/-- Of the clauses only the filter changes. -/
theorem Clause.Spelled.restated_token {c : Clause} (h : c.Spelled L) :
    (Token.raw c.text).Restated N L w (.raw (c.within w).text) := by
  refine ⟨h.restated, ?_⟩
  cases c with
  | inWindow v =>
    obtain rfl : v = .selected := h
    exact .filter
  | _ => exact .same _

theorem restated_clauses : ∀ {clauses : List Clause}, (∀ c ∈ clauses, c.Spelled L) →
    List.Forall₂ (Token.Restated N L w) (clauses.flatMap fun c => [.space, .raw c.text])
      ((clauses.map (Clause.within w)).flatMap fun c => [.space, .raw c.text])
  | [], _ => .nil
  | c :: _, h => .cons (.ordinary (by decide)) (.cons (h c (by simp)).restated_token
      (restated_clauses fun d hd => h d (List.mem_cons_of_mem _ hd)))

/-- The tokens of a selection are restated if those of its source are. -/
theorem restated_selectTokens {fields : List Field} {source source' : Option (List Token)}
    {joins : List Join} {clauses : List Clause} (hf : ∀ f ∈ fields, f.Spelled N L)
    (hs : Option.Rel (List.Forall₂ (Token.Restated N L w)) source source')
    (hj : ∀ j ∈ joins, j.Spelled N L) (hc : ∀ c ∈ clauses, c.Spelled L) :
    List.Forall₂ (Token.Restated N L w) (selectTokens fields source joins clauses)
      (selectTokens fields source' joins (clauses.map (Clause.within w))) := by
  refine List.rel_append (List.rel_append (List.rel_append (List.rel_append
    (restated_of_ordinary (by decide)) (restated_fields hf)) ?_) (restated_joins hj)) ?_
  · cases hs with
    | none => exact .nil
    | some h => exact List.rel_append (restated_of_ordinary (by decide)) h
  · cases clauses with
    | nil => exact .nil
    | cons c clauses =>
      exact List.rel_append (restated_of_ordinary (by decide)) (restated_clauses hc)

theorem Chain.Spelled.restated {c : Chain} (h : c.Spelled N L) :
    List.Forall₂ (Token.Restated N L w) c.tokens c.tokens := by
  have hanchor : List.Forall₂ (Token.Restated N L w) [.raw c.anchor] [.raw c.anchor] :=
    .cons (.ordinary h.anchor.ordinary) .nil
  have hclauses : ∀ d ∈ ([] : List Clause), d.Spelled L := by simp
  exact restated_selectTokens h.fields (.some hanchor) h.joins hclauses

theorem Source.Spelled.restated {s : Source} (h : s.Spelled N L) :
    List.Forall₂ (Token.Restated N L w) s.tokens (s.within w).tokens := by
  cases s with
  | relation t => exact .cons (.ordinary (IsWord.ordinary h)) .nil
  | derived c name =>
    have hopen : ∀ t ∈ [Token.leftParen], Ordinary t.text := by decide
    have hclose : ∀ t ∈ [Token.space, .kwOffset, .space, .number 0, .rightParen, .space, .kwAs,
        .space], Ordinary t.text := by decide
    refine List.rel_append (List.rel_append (restated_of_ordinary hopen) h.1.restated) ?_
    refine List.rel_append (restated_of_ordinary hclose) ?_
    exact .cons (.ordinary h.2.ordinary) .nil
  | buckets unit step v name =>
    obtain ⟨hunit, hstep, rfl, hname⟩ := h
    refine .cons ⟨?_, .buckets rfl rfl⟩ .nil
    refine .after (.after ?_ (by decide)) hname.ordinary
    refine .join (.join (.join (.before (by decide) (.literal hunit)) (by decide) (by decide)
      .start) (by decide) (by decide) .stop) (by decide) (by decide) (.interval hstep)

/-! ## Statements -/

namespace Statement

mutual

/-- Every text in the statement is spelled with the names in `N` and the literals in `L`, and every
    common table expression is named by a word. -/
def Spelled (N L : String → Prop) : Statement → Prop
  | ⟨_, ctes, fields, source, joins, clauses⟩ =>
    CtesSpelled N L ctes ∧ (∀ f ∈ fields, f.Spelled N L) ∧ (∀ s ∈ source, s.Spelled N L) ∧
      (∀ j ∈ joins, j.Spelled N L) ∧ ∀ c ∈ clauses, c.Spelled L
termination_by structural s => s

/-- Every common table expression is named by a word, and spelled. -/
def CtesSpelled (N L : String → Prop) : List Statement → Prop
  | [] => True
  | s :: more => (∃ n, s.name = some n ∧ IsWord n) ∧ s.Spelled N L ∧ CtesSpelled N L more
termination_by structural l => l

end

theorem ctesSpelled_iff {ctes : List Statement} :
    CtesSpelled N L ctes ↔ ∀ t ∈ ctes, (∃ n, t.name = some n ∧ IsWord n) ∧ t.Spelled N L := by
  induction ctes with
  | nil => simp [CtesSpelled]
  | cons t ctes ih => rw [CtesSpelled, ih, List.forall_mem_cons, and_assoc]

/-- The parts of a spelled statement. -/
theorem spelled_iff {s : Statement} : s.Spelled N L ↔
    (∀ t ∈ s.ctes, (∃ n, t.name = some n ∧ IsWord n) ∧ t.Spelled N L) ∧
      (∀ f ∈ s.fields, f.Spelled N L) ∧ (∀ x ∈ s.source, x.Spelled N L) ∧
        (∀ j ∈ s.joins, j.Spelled N L) ∧ ∀ c ∈ s.clauses, c.Spelled L := by
  rw [← ctesSpelled_iff]
  cases s
  rfl

theorem Spelled.restrict {s : Statement} {cs : List Clause} (h : s.Spelled N L)
    (hc : ∀ c ∈ cs, c.Spelled L) : (s.restrict cs).Spelled N L := by
  obtain ⟨hctes, hfields, hsource, hjoins, hclauses⟩ := spelled_iff.1 h
  refine spelled_iff.2 ⟨hctes, hfields, hsource, hjoins, fun c hmem => ?_⟩
  rcases List.mem_append.1 hmem with hmem | hmem
  · exact hclauses c hmem
  · exact hc c hmem

theorem Spelled.ordered {s : Statement} (h : s.Spelled N L) : s.ordered.Spelled N L :=
  h.restrict (by simp [Clause.Spelled])

theorem name_within (s : Statement) : (s.within w).name = s.name := by
  cases s
  rfl

mutual

/-- **A spelled statement can be written**, and for another window it is written alike, but for the
    placeholders. -/
theorem Spelled.exists_tokens : ∀ {s : Statement}, s.Spelled N L →
    ∃ ts us, s.tokens = .ok ts ∧ (s.within w).tokens = .ok us ∧
      List.Forall₂ (Token.Restated N L w) ts us
  | ⟨_, ctes, fields, source, joins, clauses⟩, h => by
    obtain ⟨hctes, hfields, hsource, hjoins, hclauses⟩ := h
    obtain ⟨ls, ms, hls, hms, hrel⟩ := CtesSpelled.exists_tokens hctes
    refine ⟨_, _, by rw [tokens, hls]; rfl, by rw [within, tokens, hms]; rfl, ?_⟩
    refine List.rel_append ?_ (restated_selectTokens hfields ?_ hjoins hclauses)
    · cases hrel with
      | nil => exact .nil
      | cons hl hmore =>
        refine List.rel_append (List.rel_append (restated_of_ordinary (by decide)) ?_)
          (restated_of_ordinary (by decide))
        have hseparator : ∀ t ∈ [Token.comma, .space], Ordinary t.text := by decide
        exact Token.forall₂_separated (fun t ht => .ordinary (hseparator t ht)) (.cons hl hmore)
    · cases source with
      | none => exact .none
      | some s => exact .some (hsource s rfl).restated

theorem CtesSpelled.exists_tokens : ∀ {ctes : List Statement}, CtesSpelled N L ctes →
    ∃ ls ms, ctesTokens ctes = .ok ls ∧ ctesTokens (ctesWithin w ctes) = .ok ms ∧
      List.Forall₂ (List.Forall₂ (Token.Restated N L w)) ls ms
  | [], _ => ⟨[], [], rfl, rfl, .nil⟩
  | s :: more, h => by
    obtain ⟨⟨n, hn, hword⟩, hs, hmore⟩ := h
    obtain ⟨ts, us, hts, hus, hrel⟩ := Spelled.exists_tokens hs
    obtain ⟨ls, ms, hls, hms, hrels⟩ := CtesSpelled.exists_tokens hmore
    refine ⟨cteTokens n ts :: ls, cteTokens n us :: ms, ?_, ?_, .cons ?_ hrels⟩
    · rw [ctesTokens, hts, hls, hn]
      rfl
    · rw [ctesWithin, ctesTokens, hus, hms, name_within, hn]
      rfl
    · refine List.rel_append (List.rel_append (.cons (.ordinary hword.ordinary) ?_) hrel) ?_
      · exact restated_of_ordinary (by decide)
      · exact restated_of_ordinary (by decide)

end

theorem Spelled.exists_render {s : Statement} (h : s.Spelled N L) :
    ∃ text, s.render = .ok text := by
  obtain ⟨ts, -, hts, -, -⟩ := h.exists_tokens (w := .selected)
  exact ⟨Token.render ts, by rw [render, hts]; rfl⟩

end Statement

end

end EnergyQuery.Sql
