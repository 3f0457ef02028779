/-
  The records that selecting gives.

  * `output_rowwise`: where no field ranges over a group, every row that the
    clauses keep gives one record;
  * `output_aggregate`: where some field does, all of them give one together;
  * `records_chain`: the same for the rows of a chain, which has no clauses;
  * `relation_bindAll`: a common table expression stands for its own records, if
    the names are distinct and no expression reads another;
  * `Statement.runFrom`: what a statement gives from other records of its first
    common table expression.
-/
import EnergyQuery.Proofs.Sql.Execution

namespace EnergyQuery.Sql

/-- The scopes of the rows that every clause keeps. -/
def keptScopes (db : Database) (source : String) (clauses : List Clause) (rows : List JoinedRow) :
    List Scope :=
  (rows.map (db.scope source)).filter fun σ => clauses.all (·.keeps db σ)

/-- The clauses only choose among rows: they neither group nor order them. -/
def Plain (clauses : List Clause) : Prop :=
  .groupedByFirst ∉ clauses ∧ .orderedByTime ∉ clauses

instance (clauses : List Clause) : Decidable (Plain clauses) :=
  inferInstanceAs (Decidable (_ ∧ _))

/-- The record that the fields give in one row. -/
def rowRecord (fields : List Field) (σ : Scope) : Record :=
  Group.record fields ⟨[σ], σ⟩

section
variable {db : Database} {source : String} {fields : List Field} {clauses : List Clause}
  {rows : List JoinedRow} {f : Field} {n : String} {g : Group}

theorem output_of_plain (h : Plain clauses) :
    output db source fields clauses rows =
      (ungrouped fields (db.scope source fun _ => none)
        (keptScopes db source clauses rows)).map (Group.record fields) := by
  have hg : clauses.contains .groupedByFirst = false := by simpa using h.1
  have ho : clauses.contains .orderedByTime = false := by simpa using h.2
  simp only [output, hg, ho, Bool.false_eq_true, if_false, keptScopes]

/-- **Each row that is kept gives one record**, where no field ranges over a group. -/
theorem output_rowwise (h : Plain clauses) (hf : ∀ f ∈ fields, f.expr.isAggregate = false) :
    output db source fields clauses rows =
      (keptScopes db source clauses rows).map (rowRecord fields) := by
  have ha : fields.any (·.expr.isAggregate) = false := by simpa using hf
  rw [output_of_plain h, ungrouped, ha, if_neg Bool.false_ne_true, List.map_map]
  rfl

/-- **All rows that are kept give one record together**, where some field ranges over a group. -/
theorem output_aggregate (h : Plain clauses) (hf : ∃ f ∈ fields, f.expr.isAggregate = true) :
    output db source fields clauses rows =
      [Group.record fields ⟨keptScopes db source clauses rows,
        (keptScopes db source clauses rows).headD (db.scope source fun _ => none)⟩] := by
  have ha : fields.any (·.expr.isAggregate) = true := by simpa using hf
  rw [output_of_plain h, ungrouped, if_pos ha, List.map_singleton]

theorem keptScopes_nil : keptScopes db source [] rows = rows.map (db.scope source) := by
  simp [keptScopes]

theorem records_chain {c : Chain} (hf : ∀ f ∈ c.fields, f.expr.isAggregate = false) :
    c.records db = (c.rows db).map fun row => rowRecord c.fields (db.scope c.anchor row) := by
  rw [Chain.records, output_rowwise (by decide) hf, keptScopes_nil, List.map_map]
  rfl

theorem get_record_cons_self : (Group.record (f :: fields) g).get f.name.identifier = f.value g := by
  simp [Group.record, Record.get]

theorem get_record_cons_of_ne (h : n ≠ f.name.identifier) :
    (Group.record (f :: fields) g).get n = (Group.record fields g).get n := by
  simp [Group.record, Record.get, List.lookup_cons, beq_false_of_ne h]

end

/-! ## Common table expressions -/

namespace Statement
variable {α : Type} {l : List α} {st : α → Statement} {nm : α → String} {db : Database}

theorem bindAll_cons {s : Statement} {more : List Statement} {n : String} (h : s.name = some n) :
    bindAll db (s :: more) = bindAll (db.bind n (s.run db)) more := by
  rw [bindAll, h]

/-- What is not bound stays as it is. -/
theorem relation_bindAll_of_not_mem (hname : ∀ x ∈ l, (st x).name = some (nm x)) {r : String}
    (hr : r ∉ l.map nm) : (bindAll db (l.map st)).relation r = db.relation r := by
  induction l generalizing db with
  | nil => rfl
  | cons x l ih =>
    simp only [List.map_cons, List.mem_cons, not_or] at hr
    rw [List.map_cons, bindAll_cons (hname x (by simp)),
      ih (fun y hy => hname y (by simp [hy])) hr.2]
    exact Function.update_of_ne hr.1 _ _

/-- **A common table expression stands for its own records.** -/
theorem relation_bindAll (hname : ∀ x ∈ l, (st x).name = some (nm x)) (hn : (l.map nm).Nodup)
    (hreads : ∀ x ∈ l, ∀ y ∈ l, ∀ db rs, (st x).run (db.bind (nm y) rs) = (st x).run db)
    {x : α} (hx : x ∈ l) : (bindAll db (l.map st)).relation (nm x) = (st x).run db := by
  induction l generalizing db with
  | nil => simp at hx
  | cons y l ih =>
    rw [List.map_cons, List.nodup_cons] at hn
    have hname' : ∀ x ∈ l, (st x).name = some (nm x) := fun x hx => hname x (by simp [hx])
    rw [List.map_cons, bindAll_cons (hname y (by simp))]
    rcases List.mem_cons.1 hx with rfl | hx
    · rw [relation_bindAll_of_not_mem hname' hn.1]
      exact Function.update_self _ _ _
    · rw [ih hname' hn.2 (fun x hx y hy => hreads x (by simp [hx]) y (by simp [hy])) hx]
      exact hreads x (by simp [hx]) y (by simp) _ _

/-- The records of a statement whose first common table expression gives `rs`. -/
def runFrom (db : Database) (rs : List Record) (s : Statement) : List Record :=
  match s.ctes with
  | [] => s.run db
  | c :: more =>
    execute (bindAll (c.name.elim db (db.bind · rs)) more) s.fields s.source s.joins s.clauses

theorem run_eq_runFrom {s c : Statement} {more : List Statement} (h : s.ctes = c :: more) :
    s.run db = s.runFrom db (c.run db) := by
  obtain ⟨name, ctes, fields, source, joins, clauses⟩ := s
  obtain rfl : ctes = c :: more := h
  have hbound : bindAll db (c :: more) =
      bindAll (c.name.elim db (db.bind · (c.run db))) more := by
    rw [bindAll]
    cases c.name with
    | none => rfl
    | some n => rfl
  rw [run, hbound]
  rfl

end Statement

end EnergyQuery.Sql
