/-
  Records in the order of time.

  * `output_ordered`: the records that are kept, ordered by their time;
  * `pairwise_isBefore_insertionSort`: where the records have different times,
    each is before the next, so that there is one order only;
  * `Record.get_eq_of_mem`, `rowRecord_ofName`: selecting the columns of a record
    by their names gives the record, if the names are distinct.
-/
import EnergyQuery.Proofs.Sql.Output
import EnergyQuery.Proofs.Sql.TimeChain

namespace EnergyQuery.Sql

/-! ## Selecting by name -/

section
variable {db : Database} {source n : String} {fields : List Field} {r : Record} {v : Value}
  {σ : Scope}

/-- The value of a column is that of every column of the same name, if these agree. -/
theorem Record.get_eq_of_mem (h : (n, v) ∈ r) (hu : ∀ w, (n, w) ∈ r → w = v) : r.get n = v := by
  induction r with
  | nil => simp at h
  | cons p r ih =>
    obtain ⟨m, w⟩ := p
    by_cases hm : n = m
    · subst hm
      rw [← hu w List.mem_cons_self]
      simp [Record.get]
    · have hget : Record.get ((m, w) :: r) n = Record.get r n := by
        simp [Record.get, List.lookup_cons, beq_false_of_ne hm]
      rw [hget]
      refine ih ?_ fun w hw => hu w (List.mem_cons_of_mem _ hw)
      rcases List.mem_cons.1 h with hhead | hmem
      · exact absurd (Prod.mk.inj hhead).1 hm
      · exact hmem

/-- A column of the only relation in scope. -/
theorem ref_single : (db.scope source (JoinedRow.single n r)).ref n = r.get := by
  funext column
  simp [Database.scope, JoinedRow.ref]

theorem column_single : (db.scope n (JoinedRow.single n r)).column = r.get := by
  funext column
  simp [Database.scope, JoinedRow.ref]

/-- **Columns that are selected by distinct names give the record again.** -/
theorem rowRecord_ofName (hn : (fields.map (·.name.identifier)).Nodup) :
    rowRecord (fields.map fun f => .ofName f.name)
        (db.scope n (JoinedRow.single n (rowRecord fields σ))) = rowRecord fields σ := by
  have hvalue : ∀ f ∈ fields, (rowRecord fields σ).get f.name.identifier = f.value ⟨[σ], σ⟩ := by
    intro f hf
    refine Record.get_eq_of_mem (List.mem_map_of_mem hf) fun w hw => ?_
    obtain ⟨g, hg, hgw⟩ := List.mem_map.1 hw
    obtain ⟨hname, rfl⟩ := Prod.mk.inj hgw
    rw [List.inj_on_of_nodup_map hn hg hf hname]
  rw [rowRecord, Group.record, List.map_map]
  refine List.map_congr_left fun f hf => ?_
  refine Prod.ext rfl ?_
  show (db.scope n (JoinedRow.single n (rowRecord fields σ))).column f.name.identifier = _
  rw [column_single, hvalue f hf]

end

/-! ## Ordering -/

section
variable {db : Database} {source : String} {fields : List Field} {clauses : List Clause}
  {rows : List JoinedRow} {r s t : Record}

/-- **The records that are kept, in the order of time**, where no field ranges over a group. -/
theorem output_ordered (hg : .groupedByFirst ∉ clauses) (ho : .orderedByTime ∈ clauses)
    (hf : ∀ f ∈ fields, f.expr.isAggregate = false) :
    output db source fields clauses rows =
      ((keptScopes db source clauses rows).map (rowRecord fields)).insertionSort
        Record.notAfter := by
  have hgroup : clauses.contains .groupedByFirst = false := by simpa using hg
  have horder : clauses.contains .orderedByTime = true := by simpa using ho
  have hrows : fields.any (·.expr.isAggregate) = false := by simpa using hf
  simp only [output, hgroup, horder, Bool.false_eq_true, if_false, if_true, ungrouped, hrows,
    List.map_map]
  rfl

/-- Ordering keeps every row. -/
theorem keptScopes_ordered :
    keptScopes db source (clauses ++ [.orderedByTime]) rows = keptScopes db source clauses rows := by
  refine List.filter_congr fun σ _ => ?_
  simp [Clause.keeps]

theorem Record.notAfter_trans (hrs : r.notAfter s) (hst : s.notAfter t) : r.notAfter t := by
  intro x hx
  obtain ⟨y, hy, hyx⟩ := hst x hx
  obtain ⟨z, hz, hzy⟩ := hrs y hy
  exact ⟨z, hz, le_trans hzy hyx⟩

theorem Record.notAfter_total (r s : Record) : r.notAfter s ∨ s.notAfter r := by
  by_cases h : r.notAfter s
  · exact .inl h
  · right
    intro x hx
    obtain ⟨y, hy⟩ := not_forall.1 h
    rw [Classical.not_imp] at hy
    obtain ⟨hy, hlater⟩ := hy
    refine ⟨y, hy, le_of_not_ge fun hxy => hlater ⟨x, hx, hxy⟩⟩

instance : IsTrans Record Record.notAfter := ⟨fun _ _ _ => Record.notAfter_trans⟩

instance : Std.Total Record.notAfter := ⟨Record.notAfter_total⟩

/-- Both records have a time, and that of the first is the earlier one. -/
def Record.isBefore (r s : Record) : Prop :=
  (r.get timeColumn).before (s.get timeColumn) = true

/-- **Records of different times have one order.** -/
theorem pairwise_isBefore_insertionSort {rs : List Record}
    (htime : ∀ r ∈ rs, (r.get timeColumn).isSome) (hn : (rs.map (·.get timeColumn)).Nodup) :
    (rs.insertionSort Record.notAfter).Pairwise Record.isBefore := by
  have hperm := List.perm_insertionSort Record.notAfter rs
  have hdistinct : (rs.insertionSort Record.notAfter).Pairwise
      fun r s => r.get timeColumn ≠ s.get timeColumn :=
    List.pairwise_map.1 ((hperm.map _).nodup_iff.2 hn)
  refine ((List.pairwise_insertionSort Record.notAfter rs).and hdistinct).imp_of_mem ?_
  rintro r s - hs ⟨hle, hne⟩
  obtain ⟨x, hx⟩ := Option.isSome_iff_exists.1 (htime s (hperm.mem_iff.1 hs))
  obtain ⟨y, hy, hyx⟩ := hle x hx
  have hlt : y < x := lt_of_le_of_ne hyx fun h => hne (by rw [hx, hy, h])
  simp [Record.isBefore, Value.before, hx, hy, hlt]

end

end EnergyQuery.Sql
