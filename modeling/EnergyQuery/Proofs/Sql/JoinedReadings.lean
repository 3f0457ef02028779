/-
  Every reading of joined relations stands in one row.

  Where no relation has two records of one time, a record of the anchor grows
  into a single row, with all that the other relations have at its time.  What is
  left of the other relations stays alone.  So a chain on the anchor's time is a
  list of rows of one time each, in which every record occurs once, and the order
  of the other relations changes no row.

  * `grown`: the row of a record of the anchor; `joinAll_onTime_eq` the rows of a
    chain;
  * `perm_readings`: the records that the rows hold of a relation are those of
    the relation, each of them once;
  * `instant_eq_time`: the time of a row is that of every record in it;
  * `perm_joinAll_onTime`: a chain over the same relations in another order has
    the same rows.
-/
import EnergyQuery.Proofs.Sql.TimeChain
import Mathlib.Data.List.Perm.Basic

namespace EnergyQuery.Sql

/-! ## Filters -/

section
variable {α β : Type} {m : List β} {p q : β → Bool}

/-- What fits one of two exclusive conditions, and then what fits the other. -/
theorem filter_append_filter_perm (h : ∀ y ∈ m, p y = true → q y = false) :
    (m.filter p ++ m.filter q).Perm (m.filter fun y => p y || q y) := by
  have hleft : (m.filter fun y => p y || q y).filter p = m.filter p := by
    rw [List.filter_filter]
    refine List.filter_congr fun y _ => ?_
    cases p y <;> simp
  have hright : (m.filter fun y => p y || q y).filter (!p ·) = m.filter q := by
    rw [List.filter_filter]
    refine List.filter_congr fun y hy => ?_
    cases hp : p y with
    | true => simp [h y hy hp]
    | false => simp
  rw [← hleft, ← hright]
  exact List.filter_append_perm p _

/-- Where at most one member of `l` chooses a member of `m`, each chosen one is chosen once. -/
theorem flatMap_filter_perm {p : α → β → Bool} {l : List α}
    (h : ∀ y ∈ m, (l.filter (p · y)).length ≤ 1) :
    (l.flatMap fun x => m.filter (p x)).Perm (m.filter fun y => l.any (p · y)) := by
  induction l with
  | nil => simp
  | cons x l ih =>
    have hmore : ∀ y ∈ m, (l.filter (p · y)).length ≤ 1 := by
      intro y hy
      refine le_trans ?_ (h y hy)
      exact ((List.sublist_cons_self x l).filter _).length_le
    have hdisjoint : ∀ y ∈ m, p x y = true → (l.any fun z => p z y) = false := by
      intro y hy hx
      have hlen : (l.filter (p · y)).length + 1 ≤ 1 := by simpa [hx] using h y hy
      have hnil : l.filter (p · y) = [] := List.eq_nil_of_length_eq_zero (by omega)
      simpa [List.filter_eq_nil_iff] using hnil
    rw [List.flatMap_cons]
    refine ((ih hmore).append_left _).trans ?_
    simpa using filter_append_filter_perm hdisjoint

end

/-! ## Rows of the anchor -/

/-- The row that a record of the anchor grows into: all that the relations have at its time.  A
    record without a time stays alone. -/
def Database.grown (db : Database) (a : String) (rs : List String) (x : Record) : JoinedRow :=
  match x.get timeColumn with
  | some t => db.rowAt (a :: rs) t
  | none => JoinedRow.single a x

section
variable {db : Database} {a r s source : String} {rs rs' : List String} {x y : Record}
  {row : JoinedRow} {t : ℚ}

theorem OncePerInstant.mono (h : db.OncePerInstant rs) (hs : rs' ⊆ rs) : db.OncePerInstant rs' :=
  fun r hr => h r (hs hr)

theorem alongside_of_untimed (hx : x.get timeColumn = none) :
    db.alongside a rs x = [JoinedRow.single a x] := by
  induction rs using List.reverseRecOn with
  | nil => rfl
  | append_singleton rs r ih =>
    rw [alongside_append_singleton, ih, List.flatMap_singleton, Database.widen,
      partners_of_time_none hx]

theorem recordAt_of_mem (hu : db.OncePerInstant [r]) (hy : y ∈ db.relation r)
    (ht : y.get timeColumn = some t) : db.recordAt r t = some y := by
  have hmem : y ∈ (db.relation r).filter fun z => z.get timeColumn == some t :=
    List.mem_filter.2 ⟨hy, by simp [ht]⟩
  rw [filter_eq_toList_find? (hu r (List.mem_singleton_self r) t)] at hmem
  exact Option.mem_toList.1 hmem

/-- **A record of the anchor grows into one row.** -/
theorem alongside_eq_grown (hn : (a :: rs).Nodup) (hu : db.OncePerInstant (a :: rs))
    (hx : x ∈ db.relation a) : db.alongside a rs x = [db.grown a rs x] := by
  unfold Database.grown
  cases ht : x.get timeColumn with
  | none => exact alongside_of_untimed ht
  | some t => exact alongside_eq_rowAt hn hu (recordAt_of_mem (OncePerInstant.mono hu (by simp)) hx ht)

/-- **The rows of a chain**: one for each record of the anchor, and the records without a partner in
    it. -/
theorem joinAll_onTime_eq (hn : (a :: rs).Nodup) (hu : db.OncePerInstant (a :: rs)) :
    joinAll db source (rs.map (Join.onTime a)) ((db.relation a).map (JoinedRow.single a)) =
      (db.relation a).map (db.grown a rs) ++ rs.flatMap (db.isolated a) := by
  rw [joinAll_onTime hn, List.map_eq_flatMap]
  congr 1
  exact List.flatMap_congr fun x hx => alongside_eq_grown hn hu hx

/-! ## Each reading once -/

/-- What a grown row holds of another relation are the partners of the record. -/
theorem toList_grown (hu : db.OncePerInstant [r]) (hra : r ≠ a) (hr : r ∈ rs) :
    (db.grown a rs x r).toList = db.partners x r := by
  cases ht : x.get timeColumn with
  | none => simp [Database.grown, ht, JoinedRow.single_of_ne hra, partners_of_time_none ht]
  | some t => simp [Database.grown, ht, Database.rowAt, hr, partners_of_time hu ht]

/-- At most one record of the anchor has the time of a given one. -/
theorem length_filter_sameTime_le (hu : db.OncePerInstant [a]) (y : Record) :
    ((db.relation a).filter (·.sameTime y)).length ≤ 1 := by
  cases ht : y.get timeColumn with
  | none =>
    have hnil : (db.relation a).filter (·.sameTime y) = [] := by
      refine List.filter_eq_nil_iff.2 fun x _ => ?_
      simp [Record.sameTime_iff, ht]
    simp [hnil]
  | some t =>
    have hsame : (db.relation a).filter (·.sameTime y) =
        (db.relation a).filter fun x => x.get timeColumn == some t := by
      refine List.filter_congr fun x _ => ?_
      rw [Bool.eq_iff_iff, Record.sameTime_iff]
      simp [ht]
    rw [hsame]
    exact hu a (by simp) t

/-- Of its own relation an isolated row holds its record, of any other nothing. -/
theorem filterMap_isolated :
    (db.isolated a s).filterMap (· r) = if s = r then db.unpaired a r else [] := by
  rw [Database.isolated, List.filterMap_map]
  split
  · next h =>
    subst h
    exact (List.filterMap_congr fun y _ => JoinedRow.single_self).trans List.filterMap_some
  · next h =>
    exact List.filterMap_eq_nil_iff.2 fun y _ => JoinedRow.single_of_ne (Ne.symm h)

/-- The isolated rows hold of a relation the records without a partner in the anchor. -/
theorem filterMap_flatMap_isolated (hn : rs.Nodup) :
    (rs.flatMap (db.isolated a)).filterMap (· r) = if r ∈ rs then db.unpaired a r else [] := by
  rw [List.filterMap_flatMap]
  induction rs with
  | nil => rfl
  | cons s rs ih =>
    obtain ⟨hs, hn⟩ := List.nodup_cons.1 hn
    rw [List.flatMap_cons, ih hn, filterMap_isolated]
    by_cases h : s = r
    · subst h
      simp [hs]
    · simp [h, Ne.symm h]

/-- **No reading is lost, and none occurs twice**: what the rows hold of a relation are its records,
    each as often as the relation has it. -/
theorem perm_readings (hn : (a :: rs).Nodup) (hu : db.OncePerInstant (a :: rs)) (hr : r ∈ a :: rs) :
    ((joinAll db source (rs.map (Join.onTime a))
        ((db.relation a).map (JoinedRow.single a))).filterMap (· r)).Perm (db.relation r) := by
  obtain ⟨ha, hrs⟩ := List.nodup_cons.1 hn
  rw [joinAll_onTime_eq hn hu, List.filterMap_append, List.filterMap_map,
    filterMap_flatMap_isolated hrs]
  rcases List.mem_cons.1 hr with rfl | hr
  · have hanchor : (db.relation r).filterMap ((· r) ∘ db.grown r rs) = db.relation r := by
      have hself : ∀ x ∈ db.relation r, ((· r) ∘ db.grown r rs) x = some x := fun x hx =>
        alongside_anchor ha (alongside_eq_grown hn hu hx ▸ List.mem_singleton_self _)
      exact (List.filterMap_congr hself).trans List.filterMap_some
    rw [hanchor, if_neg ha, List.append_nil]
  · have hra : r ≠ a := ne_of_mem_of_not_mem hr ha
    have hone : db.OncePerInstant [r] := OncePerInstant.mono hu (by simp [hr])
    have hpaired : ((db.relation a).filterMap ((· r) ∘ db.grown a rs)).Perm
        ((db.relation r).filter fun y => (db.relation a).any (·.sameTime y)) := by
      rw [List.filterMap_eq_flatMap_toList]
      simp only [Function.comp_apply, toList_grown hone hra hr]
      exact flatMap_filter_perm fun y _ =>
        length_filter_sameTime_le (OncePerInstant.mono hu (by simp)) y
    rw [if_pos hr]
    exact (hpaired.append_right _).trans (List.filter_append_perm _ _)

/-! ## The time of a row -/

/-- A row of a chain has grown from a record of the anchor, or is a record alone. -/
theorem mem_joinAll_onTime (hn : (a :: rs).Nodup)
    (h : row ∈ joinAll db source (rs.map (Join.onTime a))
      ((db.relation a).map (JoinedRow.single a))) :
    (∃ x ∈ db.relation a, row ∈ db.alongside a rs x) ∨
      ∃ r ∈ rs, ∃ y ∈ db.relation r, row = JoinedRow.single r y := by
  rw [joinAll_onTime hn] at h
  rcases List.mem_append.1 h with h | h
  · exact .inl (List.mem_flatMap.1 h)
  · obtain ⟨r, hr, h⟩ := List.mem_flatMap.1 h
    obtain ⟨y, hy, rfl⟩ := List.mem_map.1 h
    exact .inr ⟨r, hr, y, (List.mem_filter.1 hy).1, rfl⟩

/-- Every row holds a record of some relation. -/
theorem exists_reading (hn : (a :: rs).Nodup)
    (h : row ∈ joinAll db source (rs.map (Join.onTime a))
      ((db.relation a).map (JoinedRow.single a))) :
    ∃ r ∈ a :: rs, ∃ y ∈ db.relation r, row r = some y := by
  rcases mem_joinAll_onTime hn h with ⟨x, hx, hrow⟩ | ⟨r, hr, y, hy, rfl⟩
  · exact ⟨a, by simp, x, hx, alongside_anchor (List.nodup_cons.1 hn).1 hrow⟩
  · exact ⟨r, List.mem_cons_of_mem _ hr, y, hy, JoinedRow.single_self⟩

/-- **All readings of a row have the time of the row.** -/
theorem instant_eq_time (hn : (a :: rs).Nodup)
    (h : row ∈ joinAll db source (rs.map (Join.onTime a))
      ((db.relation a).map (JoinedRow.single a))) (hy : row r = some y) :
    row.instant (a :: rs) = y.get timeColumn := by
  have ha : a ∉ rs := (List.nodup_cons.1 hn).1
  rcases mem_joinAll_onTime hn h with ⟨x, hx, hrow⟩ | ⟨s, hs, z, hz, rfl⟩
  · rw [instant_alongside ha hrow]
    by_cases hra : r = a
    · subst hra
      rw [alongside_anchor ha hrow] at hy
      rw [Option.some.inj hy]
    · have hpartner := (alongside_partner hra hrow hy).2
      obtain ⟨t, hxt, hyt⟩ := Record.sameTime_iff.1 (List.mem_filter.1 hpartner).2
      rw [hxt, hyt]
  · by_cases hrs : r = s
    · subst hrs
      obtain rfl : z = y := by simpa using hy
      exact instant_single (List.mem_cons_of_mem _ hs)
    · rw [JoinedRow.single_of_ne hrs] at hy
      simp at hy

/-! ## The order of the relations -/

theorem rowAt_congr (h : ∀ r, r ∈ rs ↔ r ∈ rs') : db.rowAt rs t = db.rowAt rs' t := by
  funext r
  simp only [Database.rowAt, h r]

theorem grown_congr (h : rs.Perm rs') : db.grown a rs = db.grown a rs' := by
  funext x
  unfold Database.grown
  cases x.get timeColumn with
  | none => rfl
  | some t => exact rowAt_congr fun r => (h.cons a).mem_iff

/-- **The order of the other relations changes no row.** -/
theorem perm_joinAll_onTime (hn : (a :: rs).Nodup) (hu : db.OncePerInstant (a :: rs))
    (h : rs.Perm rs') :
    (joinAll db source (rs.map (Join.onTime a)) ((db.relation a).map (JoinedRow.single a))).Perm
      (joinAll db source (rs'.map (Join.onTime a))
        ((db.relation a).map (JoinedRow.single a))) := by
  have hn' : (a :: rs').Nodup := (h.cons a).nodup_iff.1 hn
  have hu' : db.OncePerInstant (a :: rs') := OncePerInstant.mono hu (h.cons a).symm.subset
  rw [joinAll_onTime_eq hn hu, joinAll_onTime_eq hn' hu', grown_congr h]
  exact (h.flatMap_right _).append_left _

end

end EnergyQuery.Sql
