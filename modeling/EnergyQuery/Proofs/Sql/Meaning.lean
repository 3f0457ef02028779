/-
  What expressions mean.

  An expression is read in a scope, which gives the columns that the rows
  before it have.  Aggregates range over a group of scopes; all else is read in
  a single one.

  * `Expr.value` is the value of an expression.  NULL passes through
    arithmetic; only `COALESCE`, `GREATEST` and `CASE` turn it into a number;
  * `value_signedSum`: terms that are present add up with their signs;
  * `value_spanSum`: the compact sum of spans, in which `minus` exchanges the
    signs of the two terms of a span, is the signed sum of the spans.
-/
import EnergyQuery.Sql.Statement
import EnergyQuery.Proofs.Sql.Value
import Mathlib.Algebra.BigOperators.Group.List.Basic
import Mathlib.Tactic.Ring

namespace EnergyQuery.Sql

/-- What an expression can refer to in one row. -/
structure Scope where
  column : String → Value
  ref : String → String → Value
  text : String → Value
  /-- The last boundary of a calendar unit that is not after an instant. -/
  boundary : TimeUnit → ℚ → ℚ

/-- The identifier that a name stands for: quoting does not change it. -/
def Name.identifier : Name → String
  | plain t | quoted t => t

/-- A value with its sign. -/
def Sign.apply : Sign → ℚ → ℚ
  | plus, x => x
  | minus, x => -x

/-- `v > t`, which holds of numbers only. -/
def exceeds : Value → Value → Bool
  | some x, some t => t < x
  | _, _ => false

@[simp] theorem exceeds_none (t : Value) : exceeds none t = false := by
  cases t <;> rfl

@[simp] theorem exceeds_some (x t : ℚ) : exceeds (some x) (some t) = decide (t < x) := rfl

namespace Expr

/-- The value of an expression in the scope `σ` of a row that belongs to the group `g`.  A zero
    divisor is an error in SQL; here it gives a number, so that NULL never hides one. -/
def value (g : List Scope) (σ : Scope) : Expr → Value
  | verbatim t => σ.text t
  | column n => σ.column n.identifier
  | ref r n => σ.ref r n
  | number d p => some (d / 10 ^ p)
  | interval s => σ.text (intervalText s)
  | add l r => Option.map₂ (· + ·) (l.value g σ) (r.value g σ)
  | sub l r => Option.map₂ (· - ·) (l.value g σ) (r.value g σ)
  | mul l r => Option.map₂ (· * ·) (l.value g σ) (r.value g σ)
  | div l r => Option.map₂ (· / ·) (l.value g σ) (r.value g σ)
  | neg e => (e.value g σ).map (- ·)
  | max e => largest (g.map fun τ => e.value g τ)
  | min e => smallest (g.map fun τ => e.value g τ)
  | orZero e => some ((e.value g σ).getD 0)
  | positivePart e => some (Max.max ((e.value g σ).getD 0) 0)
  | nullIfZero e => (e.value g σ).filter (· ≠ 0)
  | flagAbove e t => some (if exceeds (e.value g σ) (t.value g σ) then 1 else 0)
  | firstOf rs n => firstPresent (rs.map fun r => σ.ref r n)
  | truncated u e => (e.value g σ).map (σ.boundary u)
  | compact e => e.value g σ

/-- The expression ranges over a group of rows. -/
def isAggregate : Expr → Bool
  | max _ | min _ => true
  | add l r | sub l r | mul l r | div l r | flagAbove l r => l.isAggregate || r.isAggregate
  | neg e | orZero e | positivePart e | nullIfZero e | truncated _ e | compact e => e.isAggregate
  | verbatim _ | column _ | ref _ _ | number _ _ | interval _ | firstOf _ _ => false

/-- Outside aggregates, the group does not matter. -/
theorem value_eq_of_not_aggregate {g h : List Scope} {σ : Scope} :
    ∀ {e : Expr}, e.isAggregate = false → e.value g σ = e.value h σ
  | verbatim _, _ | column _, _ | ref _ _, _ | number _ _, _ | interval _, _ | firstOf _ _, _ => rfl
  | add l r, ha | sub l r, ha | mul l r, ha | div l r, ha | flagAbove l r, ha => by
    simp only [isAggregate, Bool.or_eq_false_iff] at ha
    simp only [value, value_eq_of_not_aggregate (h := h) ha.1,
      value_eq_of_not_aggregate (h := h) ha.2]
  | neg e, ha | orZero e, ha | positivePart e, ha | nullIfZero e, ha | truncated _ e, ha
  | compact e, ha => by
    simp only [isAggregate] at ha
    simp only [value, value_eq_of_not_aggregate (h := h) ha]

/-! ## Signed sums -/

/-- The values added up, each with its sign. -/
def signedTotal (terms : List (Sign × ℚ)) : ℚ :=
  (terms.map fun t => t.1.apply t.2).sum

@[simp] theorem signedTotal_nil : signedTotal [] = 0 := rfl

@[simp] theorem signedTotal_cons (s : Sign) (x : ℚ) (terms : List (Sign × ℚ)) :
    signedTotal ((s, x) :: terms) = s.apply x + signedTotal terms := by
  simp [signedTotal]

theorem signedTotal_append (l m : List (Sign × ℚ)) :
    signedTotal (l ++ m) = signedTotal l + signedTotal m := by
  simp [signedTotal]

theorem signedTotal_plus {α : Type} (l : List α) (x : α → ℚ) :
    signedTotal (l.map fun a => (Sign.plus, x a)) = (l.map x).sum := by
  rw [signedTotal, List.map_map]
  rfl

section
variable {g : List Scope} {σ : Scope}

theorem value_lead {e : Expr} {x : ℚ} (s : Sign) (h : e.value g σ = some x) :
    (s.lead e).value g σ = some (s.apply x) := by
  cases s <;> simp [Sign.lead, Sign.apply, value, h]

theorem value_extend {total e : Expr} {x y : ℚ} (s : Sign) (ht : total.value g σ = some y)
    (h : e.value g σ = some x) : (s.extend total e).value g σ = some (y + s.apply x) := by
  cases s <;> simp [Sign.extend, Sign.apply, value, ht, h, sub_eq_add_neg]

/-- Further terms are added to a total that is present. -/
theorem value_foldl_extend {x : Expr → ℚ} : ∀ (terms : List (Sign × Expr)) (total : Expr) (y : ℚ),
    total.value g σ = some y → (∀ t ∈ terms, t.2.value g σ = some (x t.2)) →
      (terms.foldl (fun total t => t.1.extend total t.2) total).value g σ =
        some (y + signedTotal (terms.map fun t => (t.1, x t.2)))
  | [], total, y, ht, _ => by simpa using ht
  | (s, e) :: more, total, y, ht, h => by
    have he := value_extend s ht (h (s, e) (by simp))
    have hm := value_foldl_extend more _ _ he fun t htm => h t (by simp [htm])
    rw [List.foldl_cons, hm, List.map_cons, signedTotal_cons, add_assoc]

/-- **Terms that are present add up with their signs.** -/
theorem value_signedSum {x : Expr → ℚ} {terms : List (Sign × Expr)} (hne : terms ≠ [])
    (h : ∀ t ∈ terms, t.2.value g σ = some (x t.2)) :
    (signedSum terms).value g σ = some (signedTotal (terms.map fun t => (t.1, x t.2))) := by
  obtain ⟨⟨s, e⟩, more, rfl⟩ := List.exists_cons_of_ne_nil hne
  have he := value_lead s (h (s, e) (by simp))
  rw [signedSum, value_foldl_extend more _ _ he fun t ht => h t (by simp [ht])]
  simp

theorem value_sum {α : Type} {l : List α} {e : α → Expr} {x : α → ℚ} (hne : l ≠ [])
    (h : ∀ a ∈ l, (e a).value g σ = some (x a)) :
    (sum (l.map e)).value g σ = some (l.map x).sum := by
  have hterms : ∀ t ∈ (l.map e).map (Sign.plus, ·),
      t.2.value g σ = some ((t.2.value g σ).getD 0) := by
    intro t ht
    obtain ⟨_, he, rfl⟩ := List.mem_map.1 ht
    obtain ⟨a, ha, rfl⟩ := List.mem_map.1 he
    rw [h a ha, Option.getD_some]
  rw [sum, value_signedSum (x := fun e => (e.value g σ).getD 0) (by simpa using hne) hterms,
    signedTotal, List.map_map, List.map_map, List.map_map]
  congr 2
  exact List.map_congr_left fun a ha => by simp [Sign.apply, h a ha]

/-- A sum of terms that each count as zero where they are missing. -/
theorem value_signedSum_orZero {α : Type} {l : List α} (hne : l ≠ []) (s : α → Sign)
    (e : α → Expr) :
    (signedSum (l.map fun a => (s a, .orZero (e a)))).value g σ =
      some (signedTotal (l.map fun a => (s a, ((e a).value g σ).getD 0))) := by
  rw [value_signedSum (x := fun e => (e.value g σ).getD 0) (by simpa using hne)]
  · rw [List.map_map]
    rfl
  · intro t ht
    obtain ⟨a, -, rfl⟩ := List.mem_map.1 ht
    rfl

/-! ## Spans -/

/-- The largest value of an expression less the smallest one, over the group. -/
def spanValue (g : List Scope) (e : Expr) : Value :=
  Option.map₂ (· - ·) (largest (g.map fun τ => e.value g τ))
    (smallest (g.map fun τ => e.value g τ))

/-- A span that is missing counts as the difference of two missing values. -/
theorem getD_spanValue {e : Expr} : (spanValue g e).getD 0 =
    (largest (g.map fun τ => e.value g τ)).getD 0 -
      (smallest (g.map fun τ => e.value g τ)).getD 0 := by
  cases hl : largest (g.map fun τ => e.value g τ) with
  | none =>
    rw [spanValue, hl, largest_isNone_iff.1 hl]
    simp
  | some m =>
    cases hs : smallest (g.map fun τ => e.value g τ) with
    | none => rw [largest_isNone_iff.2 hs] at hl; simp at hl
    | some n =>
      rw [spanValue, hl, hs]
      rfl

/-- The two terms of a span add up to the span, with its sign. -/
theorem signedTotal_spanTerms (s : Sign) (e : Expr) :
    signedTotal ((spanTerms s e).map fun t => (t.1, (t.2.value g σ).getD 0)) =
      s.apply ((spanValue g e).getD 0) := by
  simp only [spanTerms, List.map_cons, List.map_nil, value, signedTotal_cons, signedTotal_nil,
    Option.getD_some, getD_spanValue]
  cases s <;> simp [Sign.apply, Sign.opposite] <;> ring

/-- **The compact sum of spans is the signed sum of the spans**, a missing one counting as zero. -/
theorem value_spanSum {terms : List (Sign × Expr)} (hne : terms ≠ []) :
    (spanSum terms).value g σ =
      some (signedTotal (terms.map fun t => (t.1, (spanValue g t.2).getD 0))) := by
  have hflat : terms.flatMap (fun t => spanTerms t.1 t.2) ≠ [] := by
    obtain ⟨t, more, rfl⟩ := List.exists_cons_of_ne_nil hne
    simp [spanTerms]
  rw [spanSum, value, value_signedSum (x := fun e => (e.value g σ).getD 0) hflat]
  · congr 1
    clear hne hflat
    induction terms with
    | nil => rfl
    | cons t more ih =>
      rw [List.flatMap_cons, List.map_append, signedTotal_append, ih, signedTotal_spanTerms,
        List.map_cons, signedTotal_cons]
  · intro t ht
    obtain ⟨u, -, hu⟩ := List.mem_flatMap.1 ht
    simp only [spanTerms, List.mem_cons, List.not_mem_nil, or_false] at hu
    rcases hu with rfl | rfl <;> rfl

end

/-! ## Signed sums and groups -/

theorem isAggregate_foldl_extend : ∀ (terms : List (Sign × Expr)) (total : Expr),
    (terms.foldl (fun total t => t.1.extend total t.2) total).isAggregate =
      (total.isAggregate || terms.any (·.2.isAggregate))
  | [], total => by simp
  | (s, e) :: more, total => by
    rw [List.foldl_cons, isAggregate_foldl_extend more, List.any_cons, ← Bool.or_assoc]
    cases s <;> rfl

/-- A signed sum ranges over a group if one of its terms does. -/
theorem isAggregate_signedSum {terms : List (Sign × Expr)} :
    (signedSum terms).isAggregate = terms.any (·.2.isAggregate) := by
  match terms with
  | [] => rfl
  | (s, e) :: more =>
    rw [signedSum, isAggregate_foldl_extend, List.any_cons]
    cases s <;> rfl

theorem isAggregate_spanSum {terms : List (Sign × Expr)} (hne : terms ≠ []) :
    (spanSum terms).isAggregate = true := by
  obtain ⟨⟨s, e⟩, more, rfl⟩ := List.exists_cons_of_ne_nil hne
  rw [spanSum, isAggregate, isAggregate_signedSum, List.flatMap_cons]
  rfl

end Expr

end EnergyQuery.Sql
