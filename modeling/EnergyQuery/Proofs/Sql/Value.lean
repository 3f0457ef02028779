/-
  SQL values: exact rational numbers, and NULL for a missing one.

  Instants are numbers of seconds, so that one kind of value serves columns,
  times and totals alike.

  * `largest` and `smallest` are `MAX` and `MIN`: they pass over NULL, and are
    NULL where nothing else is left;
  * `largest_congr`, `smallest_congr`: both depend only on which numbers occur,
    not on how often or in which order;
  * `largest_map`, `smallest_map`: both commute with every monotone function.
-/
import Mathlib.Algebra.Order.Ring.Rat
import Mathlib.Data.List.ReduceOption
import Mathlib.Data.Option.NAry
import Mathlib.Tactic.Linarith

namespace EnergyQuery.Sql

/-- A number, or `none` for NULL. -/
abbrev Value := Option ℚ

/-- `MAX`: the largest number, NULL values passed over. -/
def largest (vs : List Value) : Value :=
  vs.reduceOption.max?

/-- `MIN`: the smallest number, NULL values passed over. -/
def smallest (vs : List Value) : Value :=
  vs.reduceOption.min?

/-- `COALESCE`: the first value that is not NULL. -/
def firstPresent : List Value → Value
  | [] => none
  | v :: more => v.or (firstPresent more)

section
variable {vs ws : List Value}

theorem largest_eq_some_iff {x : ℚ} :
    largest vs = some x ↔ some x ∈ vs ∧ ∀ y, some y ∈ vs → y ≤ x := by
  simp only [largest, List.max?_eq_some_iff, List.reduceOption_mem_iff]

theorem smallest_eq_some_iff {x : ℚ} :
    smallest vs = some x ↔ some x ∈ vs ∧ ∀ y, some y ∈ vs → x ≤ y := by
  simp only [smallest, List.min?_eq_some_iff, List.reduceOption_mem_iff]

theorem largest_eq_none_iff : largest vs = none ↔ ∀ x, some x ∉ vs := by
  simp only [largest, List.max?_eq_none_iff, List.eq_nil_iff_forall_not_mem,
    List.reduceOption_mem_iff]

theorem smallest_eq_none_iff : smallest vs = none ↔ ∀ x, some x ∉ vs := by
  simp only [smallest, List.min?_eq_none_iff, List.eq_nil_iff_forall_not_mem,
    List.reduceOption_mem_iff]

theorem largest_congr (h : ∀ x, some x ∈ vs ↔ some x ∈ ws) : largest vs = largest ws := by
  ext x
  simp only [largest_eq_some_iff, h]

theorem smallest_congr (h : ∀ x, some x ∈ vs ↔ some x ∈ ws) : smallest vs = smallest ws := by
  ext x
  simp only [smallest_eq_some_iff, h]

/-- There is a largest number exactly where there is a smallest one. -/
theorem largest_isNone_iff : largest vs = none ↔ smallest vs = none := by
  rw [largest_eq_none_iff, smallest_eq_none_iff]

theorem firstPresent_eq_none (h : ∀ w ∈ vs, w = none) : firstPresent vs = none := by
  induction vs with
  | nil => rfl
  | cons w vs ih =>
    rw [firstPresent, h w (by simp), Option.none_or]
    exact ih fun u hu => h u (by simp [hu])

/-- Where only one value is present, it is the first one. -/
theorem firstPresent_eq {v : Value} (h : ∀ w ∈ vs, w = none ∨ w = v) (hv : v ∈ vs) :
    firstPresent vs = v := by
  cases v with
  | none => exact firstPresent_eq_none fun w hw => (h w hw).elim id id
  | some x =>
    induction vs with
    | nil => simp at hv
    | cons w vs ih =>
      rw [firstPresent]
      rcases h w (by simp) with rfl | rfl
      · rw [Option.none_or]
        exact ih (fun u hu => h u (by simp [hu])) (by simpa using hv)
      · rfl

theorem some_mem_map_iff {f : ℚ → ℚ} {x : ℚ} :
    some x ∈ vs.map (Option.map f) ↔ ∃ y, some y ∈ vs ∧ f y = x := by
  constructor
  · intro h
    obtain ⟨v, hv, hx⟩ := List.mem_map.1 h
    obtain ⟨y, rfl, hy⟩ := Option.map_eq_some_iff.1 hx
    exact ⟨y, hv, hy⟩
  · rintro ⟨y, hy, rfl⟩
    exact List.mem_map.2 ⟨some y, hy, rfl⟩

theorem largest_map {f : ℚ → ℚ} (hf : Monotone f) :
    largest (vs.map (Option.map f)) = (largest vs).map f := by
  cases h : largest vs with
  | none =>
    rw [largest_eq_none_iff] at h
    rw [Option.map_none, largest_eq_none_iff]
    intro x hx
    obtain ⟨y, hy, -⟩ := some_mem_map_iff.1 hx
    exact h y hy
  | some m =>
    obtain ⟨hm, hle⟩ := largest_eq_some_iff.1 h
    rw [Option.map_some, largest_eq_some_iff]
    refine ⟨some_mem_map_iff.2 ⟨m, hm, rfl⟩, fun x hx => ?_⟩
    obtain ⟨y, hy, rfl⟩ := some_mem_map_iff.1 hx
    exact hf (hle y hy)

theorem smallest_map {f : ℚ → ℚ} (hf : Monotone f) :
    smallest (vs.map (Option.map f)) = (smallest vs).map f := by
  cases h : smallest vs with
  | none =>
    rw [smallest_eq_none_iff] at h
    rw [Option.map_none, smallest_eq_none_iff]
    intro x hx
    obtain ⟨y, hy, -⟩ := some_mem_map_iff.1 hx
    exact h y hy
  | some m =>
    obtain ⟨hm, hle⟩ := smallest_eq_some_iff.1 h
    rw [Option.map_some, smallest_eq_some_iff]
    refine ⟨some_mem_map_iff.2 ⟨m, hm, rfl⟩, fun x hx => ?_⟩
    obtain ⟨y, hy, rfl⟩ := some_mem_map_iff.1 hx
    exact hf (hle y hy)

end

end EnergyQuery.Sql
