/-
  Runs: the longest beginnings of a list whose members have a property.

  A list is cut exactly where a run stops if what is before the cut belongs to
  the run and what comes next does not.
-/
import Mathlib.Data.List.TakeWhile

namespace EnergyQuery

section
variable {α : Type} {p : α → Bool} {a b s t : List α}

/-- What comes next, if anything does, does not belong to the run. -/
def Stops (p : α → Bool) (s : List α) : Prop :=
  ∀ x ∈ s.head?, p x = false

instance : Decidable (Stops p s) :=
  inferInstanceAs (Decidable (∀ x ∈ s.head?, p x = false))

theorem stops_nil : Stops p [] := by
  intro x hx
  cases hx

theorem stops_cons {x : α} (h : p x = false) : Stops p (x :: s) := by
  intro y hy
  obtain rfl : x = y := Option.some.inj hy
  exact h

theorem takeWhile_append_of_stops (ha : ∀ x ∈ a, p x = true) (hs : Stops p s) :
    (a ++ s).takeWhile p = a := by
  rw [List.takeWhile_append_of_pos ha]
  cases s with
  | nil => rw [List.takeWhile_nil, List.append_nil]
  | cons x s => rw [List.takeWhile_cons_of_neg (by simp [hs x rfl]), List.append_nil]

theorem dropWhile_append_of_stops (ha : ∀ x ∈ a, p x = true) (hs : Stops p s) :
    (a ++ s).dropWhile p = s := by
  rw [List.dropWhile_append_of_pos ha]
  cases s with
  | nil => rfl
  | cons x s => rw [List.dropWhile_cons_of_neg (by simp [hs x rfl])]

theorem stops_dropWhile : Stops p (s.dropWhile p) := by
  intro x hx
  have hhead := List.head?_dropWhile_not p s
  rw [Option.mem_def.1 hx] at hhead
  simpa using hhead

/-- A run of at least one member is read where one begins. -/
theorem takeWhile_eq_nil_iff_stops : s.takeWhile p = [] ↔ Stops p s := by
  cases s with
  | nil => simp [Stops]
  | cons x s => cases hx : p x <;> simp [Stops, hx]

end

end EnergyQuery
