/-
  The names of columns over all devices of a family.

  Columns are added one call after the other.  Each takes the name that the
  catalog has for its quantity, whether it adds the devices up or averages over
  them.

  * `Combined.Call`: a column to be added; `Combined.run` adds them in turn;
  * `Combined.apply_eq_ok_iff`, `Combined.run_eq_ok_iff`: what one call adds, and
    what they add together;
  * `Statement.SelectsEachOnce`: the output columns have different names, each of
    which the derived table has once;
  * `Combined.selectsEachOnce_iff`: this holds unless a quantity is both added up
    and averaged over.
-/
import EnergyQuery.Proofs.Query.OutputColumns

namespace EnergyQuery

open Sql

/-! ## Calls -/

namespace Combined

/-- What is done to the values of the devices. -/
inductive Operation where
  | sum
  | average
  deriving DecidableEq, Repr

/-- A column to be added. -/
inductive Call where
  | sum (q : Quantity)
  | average (q : Quantity) (threshold : Expr)
  deriving DecidableEq, Repr

namespace Call

/-- What a call does to the values of the devices. -/
def operation : Call → Operation
  | sum _ => .sum
  | average _ _ => .average

/-- The quantity of a call. -/
def quantity : Call → Quantity
  | sum q => q
  | average q _ => q

/-- What is done to which quantity. -/
def kind (call : Call) : Operation × Quantity :=
  (call.operation, call.quantity)

/-- What a call computes over the staged relations of the devices. -/
def expr (f : Family) (ids : List ℕ) : Call → Expr
  | sum q => f.sumOf ids (f.catalogEntry q)
  | average q threshold => f.averageOf ids (f.catalogEntry q) threshold

/-- The column that is added. -/
def field (f : Family) (ids : List ℕ) (call : Call) : Field :=
  ⟨call.expr f ids, f.familyName (f.catalogEntry call.quantity).column⟩

/-- A call that the family can serve. -/
def Served (f : Family) (call : Call) : Prop :=
  f.Declares call.quantity ∧ call.quantity.isWindowTotal = false

instance (f : Family) (call : Call) : Decidable (call.Served f) :=
  inferInstanceAs (Decidable (_ ∧ _))

end Call

/-- Adds the column of one call. -/
def apply (c : Combined) : Call → Composed Combined
  | .sum q => c.sum q
  | .average q threshold => c.average q threshold

/-- The calls one after the other. -/
def run (c : Combined) (calls : List Call) : Composed Combined :=
  calls.foldlM apply c

/-- The columns of the calls, after those that are there. -/
def withCalls (c : Combined) (calls : List Call) : Combined :=
  { c with
    columns := c.columns ++ calls.map fun call => (call.quantity, call.field c.family c.ids) }

section
variable {c x : Combined} {call : Call} {calls : List Call}

/-- One call adds its column. -/
theorem apply_eq_ok_iff :
    c.apply call = .ok x ↔ c.ids ≠ [] ∧ call.Served c.family ∧ x = c.withCalls [call] := by
  have hreorder {p q r s : Prop} : p ∧ q ∧ r ∧ s ↔ q ∧ (r ∧ p) ∧ s := by tauto
  cases call with
  | sum q => exact sum_eq_ok_iff.trans hreorder
  | average q threshold => exact average_eq_ok_iff.trans hreorder

/-- The calls add their columns in order. -/
theorem run_eq_ok_iff :
    c.run calls = .ok x ↔
      (∀ call ∈ calls, c.ids ≠ [] ∧ call.Served c.family) ∧ x = c.withCalls calls := by
  induction calls generalizing c with
  | nil =>
    have hnone : c.withCalls [] = c := by simp [withCalls]
    rw [run, List.foldlM_nil, Fallible.pure_eq_ok, hnone, eq_comm]
    simp
  | cons call calls ih =>
    have hwith : (c.withCalls [call]).withCalls calls = c.withCalls (call :: calls) := by
      simp [withCalls]
    rw [run, List.foldlM_cons, List.forall_mem_cons, and_assoc]
    rw [Fallible.bind_eq_ok_of (P := c.ids ≠ [] ∧ call.Served c.family) fun _ =>
      apply_eq_ok_iff.trans and_assoc.symm]
    rw [← hwith]
    exact and_congr_right fun _ => ih

end

end Combined

/-! ## Output columns -/

/-- The columns that the statement outputs have different names, and each names one column of its
    derived table. -/
structure Sql.Statement.SelectsEachOnce (s : Statement) : Prop where
  output : s.columns.Nodup
  derived : ∃ chain name, s.source = some (.derived chain name) ∧
    ∀ n ∈ s.columns, (chain.fields.map (·.name.identifier)).count n = 1

/-- An alignment outputs the columns of its derived table. -/
theorem Alignment.selectsEachOnce_iff_nodup {a : Alignment} :
    a.statement.SelectsEachOnce ↔ a.statement.columns.Nodup := by
  refine ⟨fun h => h.output, fun h => ⟨h, a.inner, derivedName, rfl, fun n hn => ?_⟩⟩
  rw [← columns_statement]
  exact List.nodup_iff_count_eq_one.1 h n hn

namespace Combined
variable {f : Family} {ids : List ℕ} {calls : List Call}

/-- Some quantity is both added up and averaged over. -/
def Call.Collide (calls : List Call) : Prop :=
  ∃ q threshold, .sum q ∈ calls ∧ .average q threshold ∈ calls

/-- **What the calls make**: the time and a column for each of them, named after its quantity. -/
theorem exists_statement (hids : ids ≠ []) (hcalls : ∀ call ∈ calls, call.Served f) :
    ∃ c, ∃ a : Alignment, run { family := f, ids := ids } calls = .ok c ∧
      c.statement = .ok a.statement ∧ a.statement.columns = timeColumn :: calls.map fun call =>
        f.basename ++ "." ++ (f.catalogEntry call.quantity).column := by
  obtain ⟨id, rest, rfl⟩ := List.exists_cons_of_ne_nil hids
  let c := withCalls { family := f, ids := id :: rest } calls
  have hdeclared : ∀ q ∈ c.quantities, f.Declares q := by
    intro q hq
    obtain ⟨column, hcolumn, rfl⟩ := List.mem_map.1 (List.mem_eraseDups.1 hq)
    obtain ⟨call, hcall, rfl⟩ := List.mem_map.1 hcolumn
    exact (hcalls call hcall).1
  refine ⟨c, (f.aligned id rest c.quantities).compute (c.columns.map (·.2)),
    run_eq_ok_iff.2 ⟨fun call hcall => ⟨hids, hcalls call hcall⟩, rfl⟩,
    statement_eq_ok_iff.2 ⟨id, rest, rfl, hdeclared, rfl⟩, ?_⟩
  show timeColumn :: (((c.columns.map (·.2)).map fun x => Field.ofName x.name).map
    (·.name.identifier)) = _
  simp only [c, withCalls, List.nil_append, List.map_map]
  rfl

/-- Calls that do different things do so to different quantities, unless two of them collide. -/
theorem nodup_map_quantity_iff (hkind : (calls.map Call.kind).Nodup) :
    (calls.map Call.quantity).Nodup ↔ ¬Call.Collide calls := by
  constructor
  · rintro h ⟨q, threshold, hsum, haverage⟩
    have heq : Call.sum q = .average q threshold :=
      List.inj_on_of_nodup_map h hsum haverage rfl
    exact Call.noConfusion heq
  · intro hcollide
    refine hkind.of_map _ |>.map_on fun x hx y hy hq => ?_
    have hsame (hop : x.operation = y.operation) : x = y :=
      List.inj_on_of_nodup_map hkind hx hy (Prod.ext hop hq)
    cases x with
    | sum q =>
      cases y with
      | sum p => exact hsame rfl
      | average p threshold =>
        obtain rfl : q = p := hq
        exact absurd ⟨q, threshold, hx, hy⟩ hcollide
    | average q threshold =>
      cases y with
      | sum p =>
        obtain rfl : q = p := hq
        exact absurd ⟨q, threshold, hy, hx⟩ hcollide
      | average p other => exact hsame rfl

/-- Columns of different quantities have different names, and none is the time. -/
theorem nodup_names_iff (hf : f ∈ Family.all) (hcalls : ∀ call ∈ calls, call.Served f) :
    (timeColumn :: calls.map fun call =>
      f.basename ++ "." ++ (f.catalogEntry call.quantity).column).Nodup ↔
      (calls.map Call.quantity).Nodup := by
  have htime : timeColumn ∉ calls.map fun call =>
      f.basename ++ "." ++ (f.catalogEntry call.quantity).column := by
    intro hmem
    obtain ⟨call, -, hcall⟩ := List.mem_map.1 hmem
    exact time_ne_label hcall.symm
  have hmap : (calls.map fun call => f.basename ++ "." ++ (f.catalogEntry call.quantity).column) =
      (calls.map Call.quantity).map fun q => f.basename ++ "." ++ (f.catalogEntry q).column := by
    rw [List.map_map]
    rfl
  rw [List.nodup_cons, and_iff_right htime, hmap]
  refine ⟨fun h => h.of_map _, fun h => h.map_on fun q hq p hp hname => ?_⟩
  obtain ⟨x, hx, rfl⟩ := List.mem_map.1 hq
  obtain ⟨y, hy, rfl⟩ := List.mem_map.1 hp
  exact Family.column_catalogEntry_inj hf (hcalls x hx).1 (hcalls y hy).1
    (Family.familyLabel_inj.1 hname)

/-- **The output columns have different names, each found once in the derived table, exactly if no
    quantity is both added up and averaged over.**  The calls are any that do different things, to
    quantities that have a value at every instant. -/
theorem selectsEachOnce_iff (hf : f ∈ Family.all) (hids : ids ≠ [])
    (hcalls : ∀ call ∈ calls, call.Served f) (hkind : (calls.map Call.kind).Nodup) :
    ∃ c s, run { family := f, ids := ids } calls = .ok c ∧ c.statement = .ok s ∧
      (s.columns = timeColumn :: calls.map fun call =>
        f.basename ++ "." ++ (f.catalogEntry call.quantity).column) ∧
      (s.SelectsEachOnce ↔ ¬Call.Collide calls) := by
  obtain ⟨c, a, hrun, hstatement, hcolumns⟩ := exists_statement hids hcalls
  refine ⟨c, a.statement, hrun, hstatement, hcolumns, ?_⟩
  rw [Alignment.selectsEachOnce_iff_nodup, hcolumns, nodup_names_iff hf hcalls,
    nodup_map_quantity_iff hkind]

/-- The columns that a house shows of its heat pumps together. -/
theorem selectsEachOnce_heatpumps :
    ∃ c s, run { family := .heatpump, ids := [1, 2] }
        [.sum .power, .sum .heat, .average .cop Heatpump.idleRatio] = .ok c ∧
      c.statement = .ok s ∧ s.SelectsEachOnce := by
  have hcalls : ∀ call ∈ [Call.sum .power, .sum .heat, .average .cop Heatpump.idleRatio],
      call.Served .heatpump := by decide
  obtain ⟨c, s, hrun, hstatement, -, hiff⟩ :=
    selectsEachOnce_iff (by decide) (by decide : [1, 2] ≠ []) hcalls (by decide)
  refine ⟨c, s, hrun, hstatement, hiff.2 ?_⟩
  rintro ⟨q, threshold, hsum, haverage⟩
  obtain rfl : q = .cop := by simp at haverage; exact haverage.1
  simp at hsum

/-- The sum and the average of one quantity have one name. -/
theorem coefficient_selected_twice :
    (∀ call ∈ [Call.sum .cop, .average .cop Heatpump.idleRatio], call.Served .heatpump) ∧
      ([Call.sum .cop, .average .cop Heatpump.idleRatio].map Call.kind).Nodup ∧
      ∃ c s, run { family := .heatpump, ids := [1, 2] }
          [.sum .cop, .average .cop Heatpump.idleRatio] = .ok c ∧
        c.statement = .ok s ∧ s.columns = ["time", "heatpump.cop", "heatpump.cop"] ∧
        ¬s.SelectsEachOnce := by
  refine ⟨by decide, by decide, _, _, rfl, rfl, rfl, fun h => ?_⟩
  exact absurd h.output (by decide)

end Combined

end EnergyQuery
