/-
  When the names in a statement stand for something.

  A common table expression is visible under its name; a join may bring it into
  scope under a second one.  A qualified column must name a relation in scope,
  and a column that the expression behind it selects.

  * `Expr.RefsIn` collects the qualified columns of an expression; a text from
    outside might hold any, so no such expression is in scope;
  * `Chain.Scoped` is about the relations of a `FROM` and `JOIN` list over the
    common table expressions, `Statement.IsScan` about a statement that only
    reads a table;
  * `WellScoped` puts them together for a whole statement;
  * `Chain.scoped_onTime`: joins on equal times are scoped if every relation has
    a time and the columns that are computed are there.
-/
import EnergyQuery.Proofs.Sql.Meaning
import Mathlib.Data.List.Nodup

namespace EnergyQuery.Sql

/-! ## References -/

/-- Every qualified column of the expression satisfies `P`, and no text from outside occurs. -/
def Expr.RefsIn (P : String → String → Prop) : Expr → Prop
  | verbatim _ => False
  | ref r n => P r n
  | firstOf rs n => ∀ r ∈ rs, P r n
  | add l r | sub l r | mul l r | div l r | flagAbove l r => l.RefsIn P ∧ r.RefsIn P
  | neg e | max e | min e | orZero e | positivePart e | nullIfZero e | truncated _ e | compact e =>
    e.RefsIn P
  | column _ | number _ _ | interval _ => True

/-- Every qualified column of the condition satisfies `P`, and it is no text from outside. -/
def Condition.RefsIn (P : String → String → Prop) : Condition → Prop
  | equal l r => l.RefsIn P ∧ r.RefsIn P
  | verbatim _ => False

/-- Every qualified column of the clause satisfies `P`, every column that it looks up in a relation
    of its own satisfies `Q`. -/
def Clause.RefsIn (P Q : String → String → Prop) : Clause → Prop
  | verbatim _ => False
  | timePresent (some r) => P r timeColumn
  | fromFirst r => Q r timeColumn
  | beforeLast r edge _ => Q r edge
  | timePresent none | conjunction | device _ | inWindow _ | groupedByFirst | orderedByTime => True

/-! ## Relations in scope -/

/-- The names of the output columns. -/
def Statement.columns (s : Statement) : List String :=
  s.fields.map (·.name.identifier)

/-- Among common table expressions, the one named `r` selects the column `n`. -/
def Offers (ctes : List Statement) (r n : String) : Prop :=
  ∃ t ∈ ctes, t.name = some r ∧ n ∈ t.columns

namespace Chain

/-- The relations that a chain reads, each with the name under which it is in scope. -/
def targets (c : Chain) : List (String × String) :=
  (c.anchor, c.anchor) :: c.joins.map fun j => (j.relation, j.scopeName)

/-- `r.n` names a relation in scope, and a column that the expression behind it selects. -/
def Resolves (c : Chain) (ctes : List Statement) (r n : String) : Prop :=
  ∃ p ∈ c.targets, p.2 = r ∧ Offers ctes p.1 n

/-- The names in a chain over common table expressions stand for something. -/
structure Scoped (c : Chain) (ctes : List Statement) : Prop where
  /-- Every relation that is read is a common table expression. -/
  declared : ∀ p ∈ c.targets, ∃ t ∈ ctes, t.name = some p.1
  distinct : (c.targets.map (·.2)).Nodup
  used : ∀ t ∈ ctes, ∃ p ∈ c.targets, t.name = some p.1
  fields : ∀ f ∈ c.fields, f.expr.RefsIn (c.Resolves ctes)
  joins : ∀ j ∈ c.joins, j.condition.RefsIn (c.Resolves ctes)

end Chain

namespace Statement

/-- The chain whose relations are in scope in a statement: that of its derived table, or its own. -/
def chain? (s : Statement) : Option Chain :=
  match s.source with
  | some (.derived c _) => some c
  | some (.relation a) => some ⟨s.fields, a, s.joins⟩
  | _ => none

/-- The statement reads a table or an expression before it, if anything, and has no qualified
    column. -/
structure IsScan (tables : List String) (before : List Statement) (s : Statement) : Prop where
  ctes : s.ctes = []
  joins : s.joins = []
  source : (∃ r, s.source = some (.relation r) ∧ (r ∈ tables ∨ ∃ t ∈ before, t.name = some r)) ∨
    ∃ unit step w name, s.source = some (.buckets unit step w name)
  fields : ∀ f ∈ s.fields, f.expr.RefsIn fun _ _ => False
  clauses : ∀ c ∈ s.clauses, c.RefsIn (fun _ _ => False) (Offers before)

end Statement

/-- The names in a statement stand for something. -/
structure WellScoped (tables : List String) (s : Statement) : Prop where
  /-- Every common table expression has a name that no table has. -/
  named : ∀ t ∈ s.ctes, ∃ n, t.name = some n ∧ n ∉ tables
  distinct : (s.ctes.map (·.name)).Nodup
  /-- A common table expression reads a table or one before it. -/
  staged : ∀ before t after, s.ctes = before ++ t :: after → t.IsScan tables before
  direct : s.ctes = [] → s.IsScan tables []
  chain : s.ctes ≠ [] → ∃ c, s.chain? = some c ∧ c.Scoped s.ctes ∧
    ∀ clause ∈ s.clauses, clause.RefsIn (c.Resolves s.ctes) (Offers s.ctes)
  /-- What is selected from a derived table is the name of exactly one of its columns. -/
  outer : ∀ c name, s.source = some (.derived c name) → s.joins = [] ∧
    ∀ f ∈ s.fields, f.expr = .column f.name ∧
      (c.fields.filter fun g => g.name.identifier == f.name.identifier).length = 1

section
variable {P Q : String → String → Prop} {tables rs : List String} {ctes before : List Statement}
  {s : Statement} {a : String} {fields : List Field}

/-! ## Expressions -/

theorem Expr.RefsIn.mono (hPQ : ∀ r n, P r n → Q r n) : ∀ {e : Expr}, e.RefsIn P → e.RefsIn Q
  | .verbatim _, h => h.elim
  | .ref r n, h => hPQ r n h
  | .firstOf _ n, h => fun r hr => hPQ r n (h r hr)
  | .add _ _, h | .sub _ _, h | .mul _ _, h | .div _ _, h | .flagAbove _ _, h =>
    ⟨h.1.mono hPQ, h.2.mono hPQ⟩
  | .neg e, h | .max e, h | .min e, h | .orZero e, h | .positivePart e, h | .nullIfZero e, h
  | .truncated _ e, h | .compact e, h => Expr.RefsIn.mono (e := e) hPQ h
  | .column _, _ | .number _ _, _ | .interval _, _ => trivial

theorem Clause.RefsIn.mono {P' Q' : String → String → Prop} {c : Clause} (h : c.RefsIn P Q)
    (hP : ∀ r n, P r n → P' r n) (hQ : ∀ r n, Q r n → Q' r n) : c.RefsIn P' Q' := by
  cases c with
  | verbatim t => exact h.elim
  | fromFirst r => exact hQ _ _ h
  | beforeLast r edge margin => exact hQ _ _ h
  | timePresent r =>
    cases r with
    | none => trivial
    | some r => exact hP _ _ h
  | conjunction | device id | inWindow w | groupedByFirst | orderedByTime => trivial

theorem Expr.refsIn_foldl_extend : ∀ (terms : List (Sign × Expr)) (total : Expr),
    total.RefsIn P → (∀ t ∈ terms, t.2.RefsIn P) →
      (terms.foldl (fun total t => t.1.extend total t.2) total).RefsIn P
  | [], _, htotal, _ => htotal
  | (sign, e) :: more, total, htotal, h => by
    have he : e.RefsIn P := h (sign, e) (by simp)
    refine Expr.refsIn_foldl_extend more _ ?_ fun t ht => h t (by simp [ht])
    cases sign <;> exact ⟨htotal, he⟩

theorem Expr.refsIn_signedSum {terms : List (Sign × Expr)} (hne : terms ≠ [])
    (h : ∀ t ∈ terms, t.2.RefsIn P) : (Expr.signedSum terms).RefsIn P := by
  obtain ⟨⟨sign, e⟩, more, rfl⟩ := List.exists_cons_of_ne_nil hne
  have he : e.RefsIn P := h (sign, e) (by simp)
  refine Expr.refsIn_foldl_extend more _ ?_ fun t ht => h t (by simp [ht])
  cases sign <;> exact he

theorem Expr.refsIn_sum {es : List Expr} (hne : es ≠ []) (h : ∀ e ∈ es, e.RefsIn P) :
    (Expr.sum es).RefsIn P := by
  refine Expr.refsIn_signedSum (by simpa using hne) fun t ht => ?_
  obtain ⟨e, he, rfl⟩ := List.mem_map.1 ht
  exact h e he

theorem Expr.refsIn_spanSum {terms : List (Sign × Expr)} (hne : terms ≠ [])
    (h : ∀ t ∈ terms, t.2.RefsIn P) : (Expr.spanSum terms).RefsIn P := by
  have hflat : terms.flatMap (fun t => Expr.spanTerms t.1 t.2) ≠ [] := by
    obtain ⟨t, more, rfl⟩ := List.exists_cons_of_ne_nil hne
    simp [Expr.spanTerms]
  refine Expr.refsIn_signedSum hflat fun u hu => ?_
  obtain ⟨t, ht, hu⟩ := List.mem_flatMap.1 hu
  simp only [Expr.spanTerms, List.mem_cons, List.not_mem_nil, or_false] at hu
  rcases hu with rfl | rfl <;> exact h t ht

/-! ## Chains -/

theorem Offers.exists_mem {r n : String} (h : Offers ctes r n) : ∃ t ∈ ctes, t.name = some r := by
  obtain ⟨t, ht, hname, -⟩ := h
  exact ⟨t, ht, hname⟩

theorem Chain.targets_onTime :
    (Chain.mk fields a (rs.map (Join.onTime a))).targets = (a :: rs).map fun r => (r, r) := by
  rw [Chain.targets, List.map_map]
  rfl

/-- **A chain on the anchor's time is scoped** if it reads every common table expression once, each
    has a time, and the computed columns are there. -/
theorem Chain.scoped_onTime (hnames : ctes.map (·.name) = (a :: rs).map some)
    (hn : (a :: rs).Nodup) (htime : ∀ t ∈ ctes, timeColumn ∈ t.columns)
    (hfields : ∀ f ∈ fields, f.expr.RefsIn (Offers ctes)) :
    (Chain.mk fields a (rs.map (Join.onTime a))).Scoped ctes := by
  have hmem {r : String} : r ∈ a :: rs ↔ ∃ t ∈ ctes, t.name = some r := by
    rw [← List.mem_map, hnames]
    simp
  have hresolves (r n : String) (h : Offers ctes r n) :
      (Chain.mk fields a (rs.map (Join.onTime a))).Resolves ctes r n := by
    refine ⟨(r, r), ?_, rfl, h⟩
    rw [Chain.targets_onTime]
    exact List.mem_map.2 ⟨r, hmem.2 h.exists_mem, rfl⟩
  have hoffers {r : String} (hr : r ∈ a :: rs) : Offers ctes r timeColumn := by
    obtain ⟨t, ht, hname⟩ := hmem.1 hr
    exact ⟨t, ht, hname, htime t ht⟩
  refine ⟨fun p hp => ?_, ?_, fun t ht => ?_, fun f hf => (hfields f hf).mono hresolves,
    fun j hj => ?_⟩
  · rw [Chain.targets_onTime] at hp
    obtain ⟨r, hr, rfl⟩ := List.mem_map.1 hp
    exact hmem.1 hr
  · rw [Chain.targets_onTime, List.map_map]
    exact (List.map_id (a :: rs)).symm ▸ hn
  · have hname : t.name ∈ (a :: rs).map some := hnames ▸ List.mem_map_of_mem ht
    obtain ⟨r, hr, hrt⟩ := List.mem_map.1 hname
    refine ⟨(r, r), ?_, hrt.symm⟩
    rw [Chain.targets_onTime]
    exact List.mem_map.2 ⟨r, hr, rfl⟩
  · obtain ⟨r, hr, rfl⟩ := List.mem_map.1 hj
    exact ⟨hresolves a _ (hoffers (by simp)), hresolves r _ (hoffers (by simp [hr]))⟩

/-! ## Statements -/

/-- A statement that reads a table, without common table expressions. -/
theorem Statement.IsScan.wellScoped (h : s.IsScan tables []) : WellScoped tables s where
  named t ht := by simp [h.ctes] at ht
  distinct := by simp [h.ctes]
  staged before t after hs := by simp [h.ctes] at hs
  direct _ := h
  chain hne := absurd h.ctes hne
  outer c name hsource := by
    rcases h.source with ⟨r, hr, -⟩ | ⟨_, _, _, _, hb⟩
    · simp [hr] at hsource
    · simp [hb] at hsource

/-- Common table expressions that read tables only, and the relations that they stand for. -/
structure Staging (tables : List String) (ctes : List Statement) (rs : List String) : Prop where
  names : ctes.map (·.name) = rs.map some
  nodup : rs.Nodup
  not_table : ∀ r ∈ rs, r ∉ tables
  scans : ∀ t ∈ ctes, t.IsScan tables []
  time : ∀ t ∈ ctes, timeColumn ∈ t.columns

theorem Statement.IsScan.mono (h : s.IsScan tables []) : s.IsScan tables before where
  ctes := h.ctes
  joins := h.joins
  source := by
    rcases h.source with ⟨r, hr, htable | ⟨t, ht, -⟩⟩ | hb
    · exact .inl ⟨r, hr, .inl htable⟩
    · simp at ht
    · exact .inr hb
  fields := h.fields
  clauses c hc := (h.clauses c hc).mono (fun _ _ => id) fun r n hr => by
    obtain ⟨t, ht, -⟩ := hr
    simp at ht

namespace Staging

theorem ne_nil (h : Staging tables ctes (a :: rs)) : ctes ≠ [] := by
  intro hnil
  have := h.names
  simp [hnil] at this

theorem named (h : Staging tables ctes rs) : ∀ t ∈ ctes, ∃ n, t.name = some n ∧ n ∉ tables := by
  intro t ht
  have hname : t.name ∈ rs.map some := h.names ▸ List.mem_map_of_mem ht
  obtain ⟨r, hr, hrt⟩ := List.mem_map.1 hname
  exact ⟨r, hrt.symm, h.not_table r hr⟩

theorem distinct (h : Staging tables ctes rs) : (ctes.map (·.name)).Nodup := by
  rw [h.names]
  exact h.nodup.map (Option.some_injective _)

/-- A statement over staged relations, whose chain is joined on the anchor's time. -/
theorem wellScoped (h : Staging tables ctes (a :: rs)) (hctes : s.ctes = ctes)
    (hchain : s.chain? = some ⟨fields, a, rs.map (Join.onTime a)⟩)
    (hfields : ∀ f ∈ fields, f.expr.RefsIn (Offers ctes))
    (hclauses : ∀ c ∈ s.clauses, c.RefsIn (fun _ _ => False) fun _ _ => False)
    (houter : ∀ c name, s.source = some (.derived c name) → s.joins = [] ∧
      ∀ f ∈ s.fields, f.expr = .column f.name ∧
        (c.fields.filter fun g => g.name.identifier == f.name.identifier).length = 1) :
    WellScoped tables s where
  named := hctes ▸ h.named
  distinct := hctes ▸ h.distinct
  staged before t after hs := (h.scans t (by simp [← hctes, hs])).mono
  direct hnil := absurd (hctes.symm.trans hnil) h.ne_nil
  chain _ := ⟨_, hchain, hctes ▸ Chain.scoped_onTime h.names h.nodup h.time hfields,
    fun clause hc => (hclauses clause hc).mono (fun _ _ => False.elim) fun _ _ => False.elim⟩
  outer := houter

end Staging

end

end EnergyQuery.Sql
