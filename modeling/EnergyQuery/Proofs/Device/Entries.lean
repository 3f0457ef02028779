/-
  What the catalogs of a house hold.

  * `Family.catalogEntry` reads a catalog as a total function; `Family.Declares`
    says where it is more than a placeholder;
  * `isAggregate_catalogEntry`: totals over the window range over a group of
    rows, all other quantities are computed in a single row;
  * `value_catalogEntry_of_counter`: a total over the window is the span of its
    counter.  The heat of a generator scales the span of one column, while its
    counter is the scaled column; the two agree, as the factor is positive.
-/
import EnergyQuery.Device.Catalog
import EnergyQuery.Proofs.Sql.Meaning
import Mathlib.Tactic.FinCases
import Mathlib.Tactic.NormNum

namespace EnergyQuery

open Sql

namespace Quantity
variable {q c : Quantity}

theorem counter_eq_some_iff :
    q.counter = some c ↔ (q, c) ∈ [(.windowEnergy, .energy), (.windowHeat, .heatEnergy),
      (.windowEnergyIn, .energyIn), (.windowEnergyOut, .energyOut)] := by
  cases q <;> simp [counter, eq_comm]

/-- A counter is not a total itself. -/
theorem isWindowTotal_counter (h : q.counter = some c) : c.isWindowTotal = false := by
  rw [counter_eq_some_iff] at h
  fin_cases h <;> rfl

end Quantity

namespace Family
variable {f : Family} {q c : Quantity}

/-- The catalog has the quantity. -/
def Declares (f : Family) (q : Quantity) : Prop :=
  (f.find? q).isSome

instance : Decidable (f.Declares q) :=
  inferInstanceAs (Decidable (_ = true))

/-- The catalog entry of a quantity, with a placeholder for one that the catalog does not have. -/
def catalogEntry (f : Family) (q : Quantity) : Entry :=
  (f.find? q).getD (.physical q "")

theorem find?_eq_some_iff {e : Entry} :
    f.find? q = some e ↔ f.Declares q ∧ e = f.catalogEntry q := by
  unfold Declares catalogEntry
  cases f.find? q <;> simp [eq_comm]

theorem catalogEntry_mem (h : f.Declares q) : f.catalogEntry q ∈ f.catalog :=
  List.mem_of_find?_eq_some (find?_eq_some_iff.2 ⟨h, rfl⟩)

theorem quantity_catalogEntry (h : f.Declares q) : (f.catalogEntry q).quantity = q := by
  simpa using List.find?_some (find?_eq_some_iff.2 ⟨h, rfl⟩)

/-! ## Entries of a house -/

theorem isAggregate_entry :
    ∀ f ∈ all, ∀ e ∈ f.catalog, e.expr.isAggregate = e.quantity.isWindowTotal := by
  decide

theorem column_entry_ne_time : ∀ f ∈ all, ∀ e ∈ f.catalog, e.column ≠ timeColumn := by
  decide

theorem entry_eq_of_column_eq :
    ∀ f ∈ all, ∀ e ∈ f.catalog, ∀ e' ∈ f.catalog, e.column = e'.column → e = e' := by
  decide

/-- Different quantities are staged in different columns. -/
theorem column_catalogEntry_inj (hf : f ∈ all) (hq : f.Declares q) (hc : f.Declares c)
    (h : (f.catalogEntry q).column = (f.catalogEntry c).column) : q = c := by
  rw [← quantity_catalogEntry hq, ← quantity_catalogEntry hc,
    entry_eq_of_column_eq f hf _ (catalogEntry_mem hq) _ (catalogEntry_mem hc) h]

theorem isAggregate_catalogEntry (hf : f ∈ all) (h : f.Declares q) :
    (f.catalogEntry q).expr.isAggregate = q.isWindowTotal := by
  rw [isAggregate_entry f hf _ (catalogEntry_mem h), quantity_catalogEntry h]

theorem column_catalogEntry_ne_time (hf : f ∈ all) (h : f.Declares q) :
    (f.catalogEntry q).column ≠ timeColumn :=
  column_entry_ne_time f hf _ (catalogEntry_mem h)

/-! ## Totals and their counters -/

/-- A total and its counter: the span of a column and the column, or both of them scaled. -/
inductive SpanOf : Expr → Expr → Prop
  | plain (column : String) : SpanOf (Catalog.span column) (.column column)
  | scaled (column : String) :
    SpanOf (.mul (Catalog.span column) Catalog.heatFactor)
      (.mul (.column column) Catalog.heatFactor)

/-- The heat of a generator with a given electrical output. -/
def heatOf (x : ℚ) : ℚ :=
  x * (693348 / 10 ^ 5)

theorem monotone_heatOf : Monotone heatOf :=
  fun _ _ h => mul_le_mul_of_nonneg_right h (by norm_num)

theorem value_mul_heatFactor {e : Expr} {g : List Scope} {σ : Scope} :
    (Expr.mul e Catalog.heatFactor).value g σ = (e.value g σ).map heatOf := by
  rw [Expr.value]
  cases e.value g σ <;> simp [Catalog.heatFactor, Expr.value, heatOf]

theorem SpanOf.value {total counter : Expr} (h : SpanOf total counter) {g : List Scope}
    {σ : Scope} : total.value g σ = Expr.spanValue g counter := by
  cases h with
  | plain column => rfl
  | scaled column =>
    have hscaled : (g.map fun τ => (Expr.mul (.column column) Catalog.heatFactor).value g τ) =
        (g.map fun τ => τ.column column).map (Option.map heatOf) := by
      rw [List.map_map]
      exact List.map_congr_left fun τ _ => value_mul_heatFactor
    have hspan : (Catalog.span column).value g σ = Option.map₂ (· - ·)
        (largest (g.map fun τ => τ.column column)) (smallest (g.map fun τ => τ.column column)) :=
      rfl
    rw [Expr.spanValue, hscaled, largest_map monotone_heatOf, smallest_map monotone_heatOf,
      value_mul_heatFactor, hspan]
    cases largest (g.map fun τ => τ.column column) <;>
      cases smallest (g.map fun τ => τ.column column) <;> simp [heatOf, sub_mul]

/-- The families of a house declare the counter of each total that they declare, and the total is
    the span of the counter. -/
theorem spanOf_catalogEntry (hf : f ∈ all) (hq : q.counter = some c) (hd : f.Declares q) :
    f.Declares c ∧ SpanOf (f.catalogEntry q).expr (f.catalogEntry c).expr := by
  rw [Quantity.counter_eq_some_iff] at hq
  fin_cases hf <;> fin_cases hq <;>
    first
      | exact absurd hd (by decide)
      | exact ⟨by decide, .plain _⟩
      | exact ⟨by decide, .scaled _⟩

theorem value_catalogEntry_of_counter (hf : f ∈ all) (hq : q.counter = some c)
    (hd : f.Declares q) {g : List Scope} {σ : Scope} :
    (f.catalogEntry q).expr.value g σ = Expr.spanValue g (f.catalogEntry c).expr :=
  (spanOf_catalogEntry hf hq hd).2.value

end Family

end EnergyQuery
