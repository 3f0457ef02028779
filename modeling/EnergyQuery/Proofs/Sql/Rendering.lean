/-
  What rendering gives, for every tree of statements.

  A statement is written through tokens, and a common table expression without
  a name stops the writing once its own content is written.

  * `Statement.written` is the written form as a recursion over texts, part by
    part, for trees without such an expression;
  * `Statement.Contains`: some common table expression, at any depth;
    `Statement.inner` lists them in the order in which their writing ends;
  * `Statement.render_eq`: the two together say what rendering gives;
  * `Statement.render_message_iff`, `Statement.render_eq_ok_iff`: the text with
    which it fails, and what it gives otherwise.
-/
import EnergyQuery.Proofs.Fallible
import EnergyQuery.Sql.Statement

namespace EnergyQuery.Sql

/-! ## Written forms -/

/-- `expr AS name`, or `expr` alone where both read alike. -/
def Field.written (f : Field) : String :=
  if f.expr.text = f.name.text then f.expr.text else f.expr.text ++ " AS " ++ f.name.text

/-- `kind JOIN target ON condition` -/
def Join.written (j : Join) : String :=
  j.kind.text ++ " JOIN " ++ j.target ++ " ON " ++ j.condition.text

/-- Everything of a statement but its common table expressions, for a source already written. -/
def selection (fields : List Field) (source : Option String) (joins : List Join)
    (clauses : List Clause) : String :=
  "SELECT " ++ ", ".intercalate (fields.map Field.written) ++ source.elim "" (" FROM " ++ ·) ++
    String.join (joins.map (" " ++ ·.written)) ++
    if clauses.isEmpty then "" else " WHERE" ++ String.join (clauses.map (" " ++ ·.text))

/-- The written form of a chain, as a statement of its own. -/
def Chain.written (c : Chain) : String :=
  selection c.fields (some c.anchor) c.joins []

/-- The written form of a source. -/
def Source.written : Source → String
  | relation t => t
  | derived chain name => "(" ++ chain.written ++ " OFFSET 0) AS " ++ name
  | buckets unit step w name =>
    "GENERATE_SERIES(DATE_TRUNC(" ++ unit.literal ++ ", " ++ w.start ++ "::timestamptz), " ++
      w.stop ++ "::timestamptz, " ++ intervalText step ++ ") AS " ++ name

namespace Statement

mutual

/-- The written form of a statement in which every common table expression has a name. -/
def written : Statement → String
  | ⟨_, ctes, fields, source, joins, clauses⟩ =>
    (if ctes.isEmpty then "" else "WITH " ++ ", ".intercalate (ctesWritten ctes) ++ " ") ++
      selection fields (source.map Source.written) joins clauses
termination_by structural s => s

/-- `name AS (..)` for each common table expression. -/
def ctesWritten : List Statement → List String
  | [] => []
  | s :: more => (s.name.getD "" ++ " AS (" ++ s.written ++ ")") :: ctesWritten more
termination_by structural l => l

end

/-! ## Common table expressions at any depth -/

/-- The second statement is a common table expression somewhere inside the first. -/
inductive Contains : Statement → Statement → Prop
  | cte {s t : Statement} : t ∈ s.ctes → Contains s t
  | inside {s t u : Statement} : t ∈ s.ctes → Contains t u → Contains s u

mutual

/-- The common table expressions inside a statement, each after those inside it. -/
def inner : Statement → List Statement
  | ⟨_, ctes, _, _, _, _⟩ => ctesInner ctes
termination_by structural s => s

/-- Common table expressions in their order, each after those inside it. -/
def ctesInner : List Statement → List Statement
  | [] => []
  | s :: more => s.inner ++ s :: ctesInner more
termination_by structural l => l

end

theorem inner_eq (s : Statement) : s.inner = ctesInner s.ctes := by
  cases s
  rfl

theorem mem_ctesInner_iff {t : Statement} {l : List Statement} :
    t ∈ ctesInner l ↔ ∃ s ∈ l, t ∈ s.inner ∨ t = s := by
  induction l with
  | nil => simp [ctesInner]
  | cons s l ih => simp [ctesInner, ih, or_assoc]

mutual

theorem contains_of_mem_inner : ∀ {s t : Statement}, t ∈ s.inner → s.Contains t
  | ⟨_, ctes, _, _, _, _⟩, t, h => by
    obtain ⟨u, hu, ht⟩ := exists_of_mem_ctesInner (l := ctes) h
    rcases ht with ht | rfl
    · exact .inside hu ht
    · exact .cte hu

theorem exists_of_mem_ctesInner : ∀ {l : List Statement} {t : Statement}, t ∈ ctesInner l →
    ∃ u ∈ l, u.Contains t ∨ t = u
  | s :: more, t, h => by
    rcases List.mem_append.1 h with h | h
    · exact ⟨s, by simp, .inl (contains_of_mem_inner h)⟩
    rcases List.mem_cons.1 h with rfl | h
    · exact ⟨t, by simp, .inr rfl⟩
    · obtain ⟨u, hu, ht⟩ := exists_of_mem_ctesInner h
      exact ⟨u, List.mem_cons_of_mem _ hu, ht⟩

end

/-- The list has every common table expression, however deep. -/
theorem mem_inner_iff {s t : Statement} : t ∈ s.inner ↔ s.Contains t := by
  refine ⟨contains_of_mem_inner, fun h => ?_⟩
  induction h with
  | @cte s t ht => exact inner_eq s ▸ mem_ctesInner_iff.2 ⟨t, ht, .inr rfl⟩
  | @inside s t u ht _ ih => exact inner_eq s ▸ mem_ctesInner_iff.2 ⟨t, ht, .inl ih⟩

end Statement

/-! ## Tokens and texts -/

section
variable {ts : List Token} {ls : List (List Token)} {clauses : List Clause} {joins : List Join}

namespace Token

theorem render_singleton {t : Token} : render [t] = t.text := by
  rw [render_cons]
  exact String.append_empty

/-- Lists that are kept apart by tokens are texts kept apart by their text. -/
theorem render_separated {sep : List Token} :
    render (separated sep ls) = (render sep).intercalate (ls.map render) := by
  induction ls with
  | nil => rfl
  | cons ts ls ih =>
    cases ls with
    | nil => simp [separated]
    | cons us ls =>
      rw [separated, render_append, render_append, ih]
      · simp [String.intercalate_cons_cons]
      · simp

theorem render_flatMap {α : Type} {g : α → List Token} {l : List α} :
    render (l.flatMap g) = String.join (l.map fun a => render (g a)) := by
  induction l with
  | nil => rfl
  | cons a l ih => rw [List.flatMap_cons, render_append, ih, List.map_cons, String.join_cons]

end Token

open Token

theorem Field.render_tokens (f : Field) : render f.tokens = f.written := by
  unfold tokens written isBare
  by_cases h : f.expr.text = f.name.text
  · simp [h, render_singleton, Token.text]
  · rw [if_neg (by simpa using h), if_neg h]
    calc render ([.raw f.expr.text] ++ [.space, .kwAs, .space] ++ [.raw f.name.text])
        = f.expr.text ++ render [.space, .kwAs, .space] ++ f.name.text := by
          rw [render_append, render_append, render_singleton, render_singleton, Token.text,
            Token.text]
      _ = f.expr.text ++ " AS " ++ f.name.text := rfl

theorem Join.render_tokens (j : Join) : render j.tokens = j.written :=
  calc render ([.raw j.kind.text] ++ [.space, .kwJoin, .space] ++ [.raw j.target] ++
        [.space, .kwOn, .space] ++ [.raw j.condition.text])
      = j.kind.text ++ render [.space, .kwJoin, .space] ++ j.target ++
          render [.space, .kwOn, .space] ++ j.condition.text := by
        simp only [render_append, render_singleton, Token.text]
    _ = j.written := rfl

theorem render_joins : render (joins.flatMap fun j => .space :: j.tokens) =
    String.join (joins.map (" " ++ ·.written)) := by
  rw [render_flatMap]
  exact congrArg String.join (List.map_congr_left fun j _ => congrArg (" " ++ ·) j.render_tokens)

theorem render_clauses : render (clauses.flatMap fun c => [.space, .raw c.text]) =
    String.join (clauses.map (" " ++ ·.text)) := by
  rw [render_flatMap]
  refine congrArg String.join (List.map_congr_left fun c _ => ?_)
  rw [render_cons, render_singleton, Token.text, Token.text]

theorem render_selectTokens {fields : List Field} {source : Option (List Token)} :
    render (selectTokens fields source joins clauses) =
      selection fields (source.map render) joins clauses := by
  have hfields : render (Token.separated [.comma, .space] (fields.map Field.tokens)) =
      ", ".intercalate (fields.map Field.written) := by
    rw [render_separated, List.map_map]
    exact congrArg (", ".intercalate ·) (List.map_congr_left fun f _ => f.render_tokens)
  have hselect : render [.kwSelect, .space] = "SELECT " := rfl
  have hfrom : render [.space, .kwFrom, .space] = " FROM " := rfl
  have hwhere : render [.space, .kwWhere] = " WHERE" := rfl
  unfold selectTokens selection
  rw [render_append, render_append, render_append, render_append, hfields, hselect, render_joins]
  congr 1
  · cases source with
    | none => rfl
    | some ts => rw [render_append, hfrom]; rfl
  · cases clauses with
    | nil => rfl
    | cons c clauses =>
      show render ([.space, .kwWhere] ++ (c :: clauses).flatMap _) = _
      rw [render_append, hwhere, render_clauses]
      rfl

theorem Chain.render_tokens (c : Chain) : render c.tokens = c.written := by
  rw [tokens, render_selectTokens, Option.map_some, render_singleton]
  rfl

theorem Source.render_tokens (s : Source) : render s.tokens = s.written := by
  cases s with
  | relation t => exact render_singleton
  | derived chain name =>
    calc render ([.leftParen] ++ chain.tokens ++
          ([.space, .kwOffset, .space, .number 0, .rightParen, .space, .kwAs, .space] ++
            [.raw name]))
        = "(" ++ chain.written ++ (render [.space, .kwOffset, .space, .number 0, .rightParen,
            .space, .kwAs, .space] ++ name) := by
          simp only [render_append, render_singleton, chain.render_tokens, Token.text]
      _ = "(" ++ chain.written ++ (" OFFSET 0) AS " ++ name) := rfl
      _ = "(" ++ chain.written ++ " OFFSET 0) AS " ++ name := String.append_assoc.symm
  | buckets unit step w name => exact render_singleton

theorem render_cteTokens {n : String} :
    render (cteTokens n ts) = n ++ " AS (" ++ render ts ++ ")" :=
  calc render ([.raw n] ++ [.space, .kwAs, .space, .leftParen] ++ ts ++ [.rightParen])
      = n ++ render [.space, .kwAs, .space, .leftParen] ++ render ts ++ ")" := by
        simp only [render_append, render_singleton, Token.text]
    _ = n ++ " AS (" ++ render ts ++ ")" := rfl

theorem render_withTokens : render (withTokens ls) =
    if ls.isEmpty then "" else "WITH " ++ ", ".intercalate (ls.map render) ++ " " := by
  have hwith : render [.kwWith, .space] = "WITH " := rfl
  have hcomma : render [.comma, .space] = ", " := rfl
  unfold withTokens
  split
  · rfl
  · rw [render_append, render_append, hwith, render_separated, hcomma, render_singleton, Token.text]

end

/-! ## Rendering -/

namespace Statement

/-- The first common table expression without a name, in the order in which their writing ends. -/
def firstUnnamed (s : Statement) : Option Statement :=
  s.inner.find? (·.name.isNone)

/-- A result, unless a statement without a name comes first. -/
def stoppedBy {α : Type} : Option Statement → α → Except UnnamedCte α
  | none, x => .ok x
  | some t, _ => .error ⟨t.written⟩

mutual

/-- **Rendering a statement** gives its written form, unless something in it has no name. -/
theorem render_eq : ∀ s : Statement, s.render = stoppedBy s.firstUnnamed s.written
  | ⟨_, ctes, fields, source, joins, clauses⟩ => by
    have hctes := map_ctesTokens ctes
    rw [render, tokens, firstUnnamed, inner]
    cases hfirst : (ctesInner ctes).find? (·.name.isNone) with
    | some t =>
      rw [hfirst] at hctes
      rw [Fallible.map_eq_error.1 hctes]
      rfl
    | none =>
      rw [hfirst] at hctes
      obtain ⟨ls, hls, htexts⟩ := Fallible.map_eq_ok.1 hctes
      have hempty : ls.isEmpty = ctes.isEmpty := by
        cases ctes with
        | nil => simpa [ctesWritten] using htexts
        | cons s more => cases ls <;> simp [ctesWritten] at htexts ⊢
      have hsource : (source.map Source.tokens).map Token.render = source.map Source.written := by
        rw [Option.map_map]
        exact Option.map_congr fun x _ => x.render_tokens
      rw [hls]
      show Except.ok (Token.render (withTokens ls ++ _)) = .ok (written _)
      rw [Token.render_append, render_withTokens, render_selectTokens, hsource, htexts, hempty,
        written]

/-- The common table expressions of a statement, likewise. -/
theorem map_ctesTokens : ∀ l : List Statement, (ctesTokens l).map (·.map Token.render) =
    stoppedBy ((ctesInner l).find? (·.name.isNone)) (ctesWritten l)
  | [] => rfl
  | s :: more => by
    have hs := render_eq s
    have hmore := map_ctesTokens more
    rw [render, firstUnnamed] at hs
    rw [ctesTokens, ctesInner, List.find?_append]
    -- The content of the first expression is written first, then its name is looked at.
    cases hinner : s.inner.find? (·.name.isNone) with
    | some t =>
      rw [hinner] at hs
      rw [Fallible.map_eq_error.1 hs]
      rfl
    | none =>
      rw [hinner] at hs
      obtain ⟨body, hbody, htext⟩ := Fallible.map_eq_ok.1 hs
      rw [hbody, Option.none_or]
      cases hname : s.name with
      | none =>
        rw [List.find?_cons_of_pos (by simp [hname]), stoppedBy, ← htext]
        rfl
      | some n =>
        rw [List.find?_cons_of_neg (by simp [hname])]
        cases hrest : (ctesInner more).find? (·.name.isNone) with
        | some t =>
          rw [hrest] at hmore
          rw [Fallible.map_eq_error.1 hmore]
          rfl
        | none =>
          rw [hrest] at hmore
          obtain ⟨ls, hls, htexts⟩ := Fallible.map_eq_ok.1 hmore
          rw [hls]
          show Except.ok (Token.render (cteTokens n body) :: ls.map Token.render) = _
          rw [render_cteTokens, htext, htexts, stoppedBy, ctesWritten, hname]
          rfl

end

mutual

/-- What is inside the first expression without a name is written before it, so all of it is
    named. -/
theorem firstUnnamed_eq_none_of_eq_some : ∀ {s t : Statement}, s.firstUnnamed = some t →
    t.firstUnnamed = none
  | ⟨_, ctes, _, _, _, _⟩, _, h => firstUnnamed_eq_none_of_find? (l := ctes) h

theorem firstUnnamed_eq_none_of_find? : ∀ {l : List Statement} {t : Statement},
    (ctesInner l).find? (·.name.isNone) = some t → t.firstUnnamed = none
  | s :: more, t, h => by
    rw [ctesInner, List.find?_append] at h
    cases hinner : s.inner.find? (·.name.isNone) with
    | some u =>
      rw [hinner, Option.some_or] at h
      exact Option.some.inj h ▸ firstUnnamed_eq_none_of_eq_some hinner
    | none =>
      rw [hinner, Option.none_or] at h
      cases hname : s.name with
      | none =>
        rw [List.find?_cons_of_pos (by simp [hname])] at h
        exact Option.some.inj h ▸ hinner
      | some n =>
        rw [List.find?_cons_of_neg (by simp [hname])] at h
        exact firstUnnamed_eq_none_of_find? h

end

variable {s : Statement}

theorem firstUnnamed_eq_none_iff : s.firstUnnamed = none ↔ ∀ t, s.Contains t → t.name ≠ none := by
  simp [firstUnnamed, List.find?_eq_none, mem_inner_iff]

theorem render_eq_ok_iff {text : String} :
    s.render = .ok text ↔ (∀ t, s.Contains t → t.name ≠ none) ∧ text = s.written := by
  rw [render_eq, ← firstUnnamed_eq_none_iff]
  cases s.firstUnnamed <;> simp [stoppedBy, eq_comm]

theorem render_eq_error_iff {f : UnnamedCte} :
    s.render = .error f ↔ ∃ t, s.firstUnnamed = some t ∧ t.render = .ok f.text := by
  have hwritten {t : Statement} (ht : s.firstUnnamed = some t) : t.render = .ok t.written := by
    rw [render_eq, firstUnnamed_eq_none_of_eq_some ht, stoppedBy]
  rw [render_eq]
  cases hfirst : s.firstUnnamed with
  | none => simp [stoppedBy]
  | some t =>
    obtain ⟨text⟩ := f
    simp [stoppedBy, hwritten hfirst]

/-- Rendering fails exactly if some common table expression has no name. -/
theorem exists_render_eq_error_iff :
    (∃ f, s.render = .error f) ↔ ∃ t, s.Contains t ∧ t.name = none := by
  have hfails : (∃ f, s.render = .error f) ↔ s.firstUnnamed ≠ none := by
    rw [render_eq]
    cases s.firstUnnamed <;> simp [stoppedBy]
  rw [hfails, ne_eq, firstUnnamed_eq_none_iff]
  simp

/-- The fault is that of the first expression without a name. -/
theorem render_message_iff {message : String} :
    s.render.mapError UnnamedCte.message = .error message ↔
      ∃ before t after text, s.inner = before ++ t :: after ∧ (∀ u ∈ before, u.name ≠ none) ∧
        t.name = none ∧ t.render = .ok text ∧
        message = "common table expression has no name: " ++ text := by
  rw [Fallible.mapError_eq_error]
  constructor
  · rintro ⟨f, hf, rfl⟩
    obtain ⟨t, ht, htext⟩ := render_eq_error_iff.1 hf
    obtain ⟨hname, before, after, hinner, hbefore⟩ := List.find?_eq_some_iff_append.1 ht
    exact ⟨before, t, after, f.text, hinner, by simpa [Option.isSome_iff_ne_none] using hbefore,
      by simpa using hname, htext, rfl⟩
  · rintro ⟨before, t, after, text, hinner, hbefore, hname, htext, rfl⟩
    have ht : s.firstUnnamed = some t :=
      List.find?_eq_some_iff_append.2 ⟨by simpa using hname, before, after, hinner,
        by simpa [Option.isSome_iff_ne_none] using hbefore⟩
    exact ⟨⟨text⟩, render_eq_error_iff.2 ⟨t, ht, htext⟩, rfl⟩

/-- **What rendering gives, for every tree of statements.**  It fails exactly if some common table
    expression, at whatever depth, has no name.  The fault then names the first such expression in
    the order in which their writing ends, by its own rendering.  Otherwise the text is the written
    form. -/
theorem rendering (s : Statement) :
    ((∃ f, s.render = .error f) ↔ ∃ t, s.Contains t ∧ t.name = none) ∧
      (∀ message, s.render.mapError UnnamedCte.message = .error message ↔
        ∃ before t after text, s.inner = before ++ t :: after ∧ (∀ u ∈ before, u.name ≠ none) ∧
          t.name = none ∧ t.render = .ok text ∧
          message = "common table expression has no name: " ++ text) ∧
      ∀ text, s.render = .ok text ↔
        (∀ t, s.Contains t → t.name ≠ none) ∧ text = s.written :=
  ⟨exists_render_eq_error_iff, fun _ => render_message_iff, fun _ => render_eq_ok_iff⟩

/-- What is missing deep inside an expression is noticed before what is missing further out. -/
example :
    let bare (relation : String) : Statement :=
      { fields := [.time], source := some (.relation relation) }
    let s : Statement := { ctes := [{ name := some "a", ctes := [bare "solar"] }, bare "meter"] }
    s.render.mapError UnnamedCte.message =
      .error "common table expression has no name: SELECT time FROM solar" :=
  rfl

end Statement

end EnergyQuery.Sql
