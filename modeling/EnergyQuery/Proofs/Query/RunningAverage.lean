/-
  Averages over the devices whose value exceeds a threshold.

  Such an average is to be the mean of the values above the threshold, and NULL
  where there is none.

  * `meanAbove` is that mean; `value_averageOf` is what the expression gives;
  * `value_averageOf_eq_meanAbove_iff`: of several devices, the two agree if the
    values that are not above the threshold add up to zero, since the expression
    divides the sum of all values; a single device is its own average, whatever
    its value is.
-/
import EnergyQuery.Proofs.Query.Composition
import Mathlib.Algebra.Field.Rat

namespace EnergyQuery

open Sql

/-- The values above `v`. -/
def above (v : ℚ) (vs : List Value) : List ℚ :=
  vs.reduceOption.filter (v < ·)

/-- The values that are present, but not above `v`. -/
def notAbove (v : ℚ) (vs : List Value) : List ℚ :=
  vs.reduceOption.filter (· ≤ v)

/-- The mean of the values above `v`, NULL if there is none. -/
def meanAbove (v : ℚ) (vs : List Value) : Value :=
  if above v vs = [] then none else some ((above v vs).sum / (above v vs).length)

/-- The values are averaged as they are to be: a single one is NULL or above `v`; of several, none
    is above `v`, or those that are not add up to zero. -/
def AveragesAbove (v : ℚ) : List Value → Prop
  | [w] => w = none ∨ ∃ x, w = some x ∧ v < x
  | vs => above v vs = [] ∨ (notAbove v vs).sum = 0

section
variable {v : ℚ} {vs : List Value}

theorem sum_map_getD (vs : List Value) : (vs.map (·.getD 0)).sum = vs.reduceOption.sum := by
  induction vs with
  | nil => rfl
  | cons w vs ih => cases w <;> simp [ih]

theorem sum_above_add_sum_notAbove :
    (above v vs).sum + (notAbove v vs).sum = vs.reduceOption.sum := by
  unfold above notAbove
  induction vs.reduceOption with
  | nil => simp
  | cons x l ih =>
    by_cases h : v < x
    · simp [h, ← ih, add_assoc]
    · simp [h, not_lt.1 h, ← ih, add_left_comm]

/-- The flags count the values above `v`. -/
theorem sum_map_flag :
    (vs.map fun w => if exceeds w (some v) then (1 : ℚ) else 0).sum = (above v vs).length := by
  induction vs with
  | nil => rfl
  | cons w vs ih =>
    unfold above at ih ⊢
    cases w with
    | none => simp [ih]
    | some x =>
      by_cases h : v < x
      · simp [h, ih, add_comm]
      · simp [h, ih]

end

namespace Family
variable {f : Family} {id : ℕ} {ids : List ℕ} {e : Entry} {threshold : Expr} {g : List Scope}
  {σ : Scope} {v : ℚ}

/-- The staged column of each device in one row. -/
def readings (f : Family) (ids : List ℕ) (e : Entry) (σ : Scope) : List Value :=
  ids.map fun id => σ.ref (f.relation id) e.column

theorem value_averageOf_singleton :
    (f.averageOf [id] e threshold).value g σ = σ.ref (f.relation id) e.column := rfl

/-- The sum of all values, divided by the number of those above the threshold. -/
theorem value_averageOf (hlen : 2 ≤ ids.length) (ht : threshold.value g σ = some v) :
    (f.averageOf ids e threshold).value g σ =
      if above v (f.readings ids e σ) = [] then none
      else some ((f.readings ids e σ).reduceOption.sum / (above v (f.readings ids e σ)).length) := by
  have hne : ids ≠ [] := by
    rintro rfl
    simp at hlen
  have hshape : f.averageOf ids e threshold =
      .div (.sum (ids.map fun id => .orZero (f.columnOf id e)))
        (.nullIfZero (.sum (ids.map fun id => .flagAbove (f.columnOf id e) threshold))) := by
    match ids, hlen with
    | i :: j :: rest, _ => rfl
  have hsum : (Expr.sum (ids.map fun id => .orZero (f.columnOf id e))).value g σ =
      some (f.readings ids e σ).reduceOption.sum := by
    rw [Expr.value_sum (x := fun id => (σ.ref (f.relation id) e.column).getD 0) hne fun _ _ => rfl,
      ← sum_map_getD, readings, List.map_map]
    rfl
  have hcount : (Expr.sum (ids.map fun id => .flagAbove (f.columnOf id e) threshold)).value g σ =
      some ((above v (f.readings ids e σ)).length : ℚ) := by
    rw [Expr.value_sum (x := fun id =>
        if exceeds (σ.ref (f.relation id) e.column) (some v) then (1 : ℚ) else 0) hne,
      ← sum_map_flag, readings, List.map_map]
    · rfl
    · intro id _
      rw [Expr.value, ht]
      rfl
  rw [hshape, Expr.value, hsum, Expr.value, hcount]
  -- With nothing above the threshold the quotient is by NULL and not by zero.
  by_cases h : above v (f.readings ids e σ) = []
  · simp [h]
  · have hpos : ((above v (f.readings ids e σ)).length : ℚ) ≠ 0 := by simpa using h
    simp [h]

/-- **When the average is the mean of the values above the threshold.** -/
theorem value_averageOf_eq_meanAbove_iff (hids : ids ≠ []) (ht : threshold.value g σ = some v) :
    (f.averageOf ids e threshold).value g σ = meanAbove v (f.readings ids e σ) ↔
      AveragesAbove v (f.readings ids e σ) := by
  match ids, hids with
  | [id], _ =>
    rw [value_averageOf_singleton]
    show σ.ref (f.relation id) e.column = meanAbove v [σ.ref (f.relation id) e.column] ↔
      AveragesAbove v [σ.ref (f.relation id) e.column]
    cases σ.ref (f.relation id) e.column with
    | none => simp [AveragesAbove, meanAbove, above]
    | some x =>
      by_cases h : v < x <;> simp [AveragesAbove, meanAbove, above, h]
  | i :: j :: rest, _ =>
    rw [value_averageOf (by simp) ht]
    have hdef : AveragesAbove v (f.readings (i :: j :: rest) e σ) ↔
        above v (f.readings (i :: j :: rest) e σ) = [] ∨
          (notAbove v (f.readings (i :: j :: rest) e σ)).sum = 0 := Iff.rfl
    rw [hdef, meanAbove]
    split
    · next h => simp [h]
    · next h =>
      have hpos : ((above v (f.readings (i :: j :: rest) e σ)).length : ℚ) ≠ 0 := by simpa using h
      rw [← sum_above_add_sum_notAbove (v := v), Option.some.injEq, div_left_inj' hpos]
      simp [h]

end Family

/-- **The average of a family is the mean of the values above the threshold exactly where those not
    above it do not matter**, also as a column of all devices, and for the coefficient of
    performance of heat pumps. -/
theorem average_eq_meanAbove_iff (ids : List ℕ) (hids : ids ≠ []) :
    (∀ (f : Family) (q : Quantity) (threshold : Expr), q.isWindowTotal = false → f.Declares q →
      ∃ x, f.average ids q threshold = .ok x ∧
        (∃ c, Combined.average { family := f, ids := ids } q threshold = .ok c ∧
          c.columns = [(q, ⟨x, f.familyName (f.catalogEntry q).column⟩)]) ∧
        ∀ (g : List Scope) (σ : Scope) (v : ℚ), threshold.value g σ = some v →
          (x.value g σ = meanAbove v (f.readings ids (f.catalogEntry q) σ) ↔
            AveragesAbove v (f.readings ids (f.catalogEntry q) σ))) ∧
    (∃ x, Heatpump.copField ids = .ok ⟨x, Family.heatpump.familyName "cop"⟩ ∧
      ∀ (g : List Scope) (σ : Scope),
        (x.value g σ = meanAbove 1 (ids.map fun id => σ.ref (Family.heatpump.relation id) "cop") ↔
          AveragesAbove 1 (ids.map fun id => σ.ref (Family.heatpump.relation id) "cop"))) := by
  constructor
  · intro f q threshold hq hd
    refine ⟨_, Family.average_eq_ok_iff.2 ⟨hids, hd, rfl⟩,
      ⟨_, Combined.average_eq_ok_iff.2 ⟨hq, hids, hd, rfl⟩, rfl⟩, fun g σ v ht => ?_⟩
    exact Family.value_averageOf_eq_meanAbove_iff hids ht
  · have hcop : Family.heatpump.Declares .cop := by decide
    have hthreshold (g : List Scope) (σ : Scope) : Heatpump.idleRatio.value g σ = some 1 := by
      simp [Heatpump.idleRatio, Expr.value]
    refine ⟨_, ?_, fun g σ => Family.value_averageOf_eq_meanAbove_iff
      (f := .heatpump) (e := Family.heatpump.catalogEntry .cop) hids (hthreshold g σ)⟩
    rw [Heatpump.copField, Family.average_eq_ok_iff.2 ⟨hids, hcop, rfl⟩]
    rfl

/-- A heat pump that runs, and one that idles. -/
def runningAndIdle : Scope where
  column _ := none
  ref r _ :=
    if r = Family.heatpump.relation 1 then some 3
    else if r = Family.heatpump.relation 2 then some (1 / 2)
    else none
  text _ := none
  boundary _ t := t

/-- Above a threshold that no heat pump exceeds there is no average, and no mean; above another one,
    the two differ. -/
theorem average_eq_meanAbove_heatpumps :
    (∃ x, Family.heatpump.average [1, 2] .cop (.number 4 0) = .ok x ∧
      x.value [runningAndIdle] runningAndIdle = meanAbove 4 [some 3, some (1 / 2)]) ∧
    (∃ x, Heatpump.copField [1, 2] = .ok ⟨x, Family.heatpump.familyName "cop"⟩ ∧
      x.value [runningAndIdle] runningAndIdle ≠ meanAbove 1 [some 3, some (1 / 2)]) := by
  obtain ⟨hfamily, hcop⟩ := average_eq_meanAbove_iff [1, 2] (by decide)
  constructor
  · obtain ⟨x, hx, -, h⟩ := hfamily .heatpump .cop (.number 4 0) rfl (by decide)
    refine ⟨x, hx, (h [runningAndIdle] runningAndIdle 4 (by simp [Expr.value])).2 ?_⟩
    exact .inl (by decide +kernel)
  · obtain ⟨x, hx, h⟩ := hcop
    refine ⟨x, hx, mt (h [runningAndIdle] runningAndIdle).1 ?_⟩
    rintro (habove | hrest)
    · exact absurd habove (by decide +kernel)
    · exact absurd hrest (by decide +kernel)

/-- The coefficient of a heat pump that idles enters the average of the one that runs. -/
theorem idle_coefficient_enters_average :
    ∃ x, Heatpump.copField [1, 2] = .ok x ∧
      x.expr.value [runningAndIdle] runningAndIdle = some (7 / 2) ∧
      meanAbove 1 (Family.heatpump.readings [1, 2] (Family.heatpump.catalogEntry .cop)
        runningAndIdle) = some 3 := by
  refine ⟨_, rfl, ?_, ?_⟩
  · decide +kernel
  · decide +kernel

end EnergyQuery
