/-
  Steps that may fail, one after the other.

  A sequence of steps succeeds if each of them does, with what the one before
  hands on.

  * `bind_eq_ok`, `bind_eq_ok_of`, `eq_ok_iff`, ..: two steps, and a check;
  * `map_eq_ok`, `mapError_eq_ok`, ..: a step whose result or whose fault is put
    into other words;
  * `mapM_eq_ok_iff`, `forM_eq_ok_iff`: the same step for each member of a list;
  * `exists_mapM`, `forall₂_of_mapM_eq_ok`: its results, member by member.
-/
import Mathlib.Data.List.Forall2

namespace EnergyQuery.Fallible

variable {ε ε' α β : Type}

/-! ## Two steps -/

@[simp] theorem bind_eq_ok {x : Except ε α} {f : α → Except ε β} {b : β} :
    (x >>= f) = .ok b ↔ ∃ a, x = .ok a ∧ f a = .ok b := by
  cases x <;> simp [bind, Except.bind]

@[simp] theorem pure_eq_ok {a b : α} : (pure a : Except ε α) = .ok b ↔ a = b := by
  simp [pure, Except.pure]

theorem bind_eq_error {x : Except ε α} {f : α → Except ε β} {e : ε} :
    (x >>= f) = .error e ↔ x = .error e ∨ ∃ a, x = .ok a ∧ f a = .error e := by
  cases x <;> simp [bind, Except.bind]

theorem pure_ne_error {a : α} {e : ε} : (pure a : Except ε α) ≠ .error e := by
  simp [pure, Except.pure]

/-- A check is passed if it finds no fault. -/
theorem eq_ok_iff {x : Except ε Unit} : x = .ok () ↔ ∀ e, x ≠ .error e := by
  cases x <;> simp

@[simp] theorem mapError_eq_ok {x : Except ε α} {g : ε → ε'} {a : α} :
    x.mapError g = .ok a ↔ x = .ok a := by
  cases x <;> simp [Except.mapError]

theorem mapError_eq_error {x : Except ε α} {g : ε → ε'} {e : ε'} :
    x.mapError g = .error e ↔ ∃ f, x = .error f ∧ g f = e := by
  cases x <;> simp [Except.mapError]

theorem map_eq_ok {x : Except ε α} {f : α → β} {b : β} :
    x.map f = .ok b ↔ ∃ a, x = .ok a ∧ f a = b := by
  cases x <;> simp [Except.map]

theorem map_eq_error {x : Except ε α} {f : α → β} {e : ε} : x.map f = .error e ↔ x = .error e := by
  cases x <;> simp [Except.map]

/-- A step that is `a` under a condition hands `a` on. -/
theorem bind_eq_ok_of {x : Except ε α} {f : α → Except ε β} {P : Prop} {a : α} {b : β}
    (h : ∀ y, x = .ok y ↔ P ∧ y = a) : (x >>= f) = .ok b ↔ P ∧ f a = .ok b := by
  rw [bind_eq_ok]
  constructor
  · rintro ⟨y, hx, hf⟩
    obtain ⟨hP, rfl⟩ := (h y).1 hx
    exact ⟨hP, hf⟩
  · rintro ⟨hP, hf⟩
    exact ⟨a, (h a).2 ⟨hP, rfl⟩, hf⟩

/-- A check under which the rest is done. -/
theorem bind_unit_eq_ok {x : Except ε Unit} {f : Unit → Except ε β} {P : Prop} {b : β}
    (h : x = .ok () ↔ P) : (x >>= f) = .ok b ↔ P ∧ f () = .ok b :=
  bind_eq_ok_of fun _ => h.trans (and_iff_left rfl).symm

/-- What fails under a condition and else gives a result has no other fault. -/
theorem eq_error_iff {x : Except ε α} {P : Prop} {e e' : ε} (hfail : P → x = .error e)
    (hok : ¬P → ∃ a, x = .ok a) : x = .error e' ↔ P ∧ e' = e := by
  by_cases h : P
  · rw [hfail h, Except.error.injEq, and_iff_right h, eq_comm]
  · obtain ⟨a, ha⟩ := hok h
    simp [ha, h]

/-! ## A step for each member of a list -/

/-- Steps that are `g` under a condition succeed together if each meets its condition. -/
theorem mapM_eq_ok_iff {f : α → Except ε β} {P : α → Prop} {g : α → β} :
    ∀ {l : List α} {ys : List β}, (∀ x ∈ l, ∀ y, f x = .ok y ↔ P x ∧ y = g x) →
      (l.mapM f = .ok ys ↔ (∀ x ∈ l, P x) ∧ ys = l.map g)
  | [], ys, _ => by
    rw [List.mapM_nil, pure_eq_ok]
    simp [eq_comm]
  | x :: l, ys, h => by
    have ih (zs : List β) : l.mapM f = .ok zs ↔ (∀ x ∈ l, P x) ∧ zs = l.map g :=
      mapM_eq_ok_iff fun x hx => h x (by simp [hx])
    simp only [List.mapM_cons, bind_eq_ok, pure_eq_ok, h x (by simp), ih, List.forall_mem_cons,
      List.map_cons]
    constructor
    · rintro ⟨_, ⟨hx, rfl⟩, _, ⟨hl, rfl⟩, rfl⟩
      exact ⟨⟨hx, hl⟩, rfl⟩
    · rintro ⟨⟨hx, hl⟩, rfl⟩
      exact ⟨_, ⟨hx, rfl⟩, _, ⟨hl, rfl⟩, rfl⟩

/-- Steps succeed together if each of them does, with its own result. -/
theorem mapM_eq_ok_of_forall₂ {f : α → Except ε β} {l : List α} {ys : List β}
    (h : List.Forall₂ (fun x y => f x = .ok y) l ys) : l.mapM f = .ok ys := by
  induction h with
  | nil => rfl
  | cons hx _ ih =>
    rw [List.mapM_cons, hx, ih]
    rfl

theorem exists_mapM {f : α → Except ε β} {l : List α} (h : ∀ x ∈ l, ∃ y, f x = .ok y) :
    ∃ ys, l.mapM f = .ok ys ∧ List.Forall₂ (fun x y => f x = .ok y) l ys := by
  obtain ⟨ys, hys⟩ : ∃ ys, List.Forall₂ (fun x y => f x = .ok y) l ys := by
    induction l with
    | nil => exact ⟨[], .nil⟩
    | cons x l ih =>
      obtain ⟨y, hy⟩ := h x (by simp)
      obtain ⟨ys, hys⟩ := ih fun z hz => h z (List.mem_cons_of_mem _ hz)
      exact ⟨y :: ys, .cons hy hys⟩
  exact ⟨ys, mapM_eq_ok_of_forall₂ hys, hys⟩

theorem forall₂_of_mapM_eq_ok {f : α → Except ε β} : ∀ {l : List α} {ys : List β},
    l.mapM f = .ok ys → List.Forall₂ (fun x y => f x = .ok y) l ys
  | [], ys, h => by
    obtain rfl : [] = ys := pure_eq_ok.1 h
    exact .nil
  | x :: l, ys, h => by
    rw [List.mapM_cons, bind_eq_ok] at h
    obtain ⟨y, hy, h⟩ := h
    obtain ⟨zs, hzs, hpure⟩ := bind_eq_ok.1 h
    obtain rfl : y :: zs = ys := pure_eq_ok.1 hpure
    exact .cons hy (forall₂_of_mapM_eq_ok hzs)

theorem exists_of_mem_forall₂ {R : α → β → Prop} {l : List α} {ys : List β}
    (h : List.Forall₂ R l ys) {y : β} (hy : y ∈ ys) : ∃ x ∈ l, R x y := by
  induction h with
  | nil => simp at hy
  | @cons x z l zs hz _ ih =>
    rcases List.mem_cons.1 hy with rfl | hy
    · exact ⟨x, by simp, hz⟩
    · obtain ⟨w, hw, hwy⟩ := ih hy
      exact ⟨w, List.mem_cons_of_mem _ hw, hwy⟩

/-- Checks succeed together if each of them does. -/
theorem forM_eq_ok_iff {f : α → Except ε PUnit} {l : List α} {u : PUnit} :
    l.forM f = .ok u ↔ ∀ x ∈ l, f x = .ok () := by
  rw [List.forM_eq_forM]
  induction l with
  | nil => simp [pure, Except.pure]
  | cons x l ih =>
    simp only [List.forM_cons, bind_eq_ok, ih, List.forall_mem_cons]
    constructor
    · rintro ⟨_, hx, hl⟩
      exact ⟨hx, hl⟩
    · rintro ⟨hx, hl⟩
      exact ⟨(), hx, hl⟩

end EnergyQuery.Fallible
