/-
  Signed sums over relations aligned in time.

  An alignment is to give one record for each instant at which a device has a
  reading, with the signed sum of all devices at that instant.

  * `sumChain` is the chain behind the signed sums of a family and of a
    combination; `alignedSum` is what it is to give at an instant;
  * `recordsAt_eq_alignedSum_iff`: it does so where the anchor has a reading, or
    at most one other device has.  Elsewhere the other devices' readings stand
    in records of their own, one for each of them, since every join looks at
    the anchor's time alone;
  * `DeviceSum` are the sums of the house, over one family or a combination, and
    `signedSum_aligned_iff` says the same of their statements.
-/
import EnergyQuery.Proofs.Device.Naming
import EnergyQuery.Proofs.Query.Combining
import EnergyQuery.Proofs.Sql.Output
import EnergyQuery.Proofs.Sql.TimeChain

namespace EnergyQuery

open Sql

/-- The value of a summand at the instant `t`; NULL where its relation has no record. -/
def Summand.reading (db : Database) (m : Summand) (t : ℚ) : Value :=
  (db.recordAt m.relation t).bind (·.get m.column)

/-- The signed sum of the summands at the instant `t`, a missing one counting as zero. -/
def totalAt (db : Database) (ms : List Summand) (t : ℚ) : ℚ :=
  Expr.signedTotal (ms.map fun m => (m.sign, (m.reading db t).getD 0))

/-- The signed sum of the summands in a joined row, a missing one counting as zero. -/
def rowTotal (ms : List Summand) (row : JoinedRow) : ℚ :=
  Expr.signedTotal (ms.map fun m => (m.sign, (row.ref m.relation m.column).getD 0))

/-- The chain that adds up the columns of several relations. -/
def sumChain (a : String) (rs : List String) (ms : List Summand) (n : Name) : Chain where
  fields := [timeOf a rs, ⟨.signedSum (ms.map fun m => (m.sign, .orZero m.expr)), n⟩]
  anchor := a
  joins := rs.map (Join.onTime a)

/-- The record of an instant with its sum. -/
def sumRecord (n : Name) (t : ℚ) (total : ℚ) : Record :=
  [(timeColumn, some t), (n.identifier, some total)]

/-- The records of a chain at the instant `t`. -/
def Sql.Chain.recordsAt (db : Database) (c : Chain) (t : ℚ) : List Record :=
  (c.records db).filter fun r => r.get timeColumn == some t

/-- What a chain is to give at the instant `t`: one record with the signed sum if any device has a
    reading, and none otherwise. -/
def alignedSum (db : Database) (ms : List Summand) (n : Name) (t : ℚ) : List Record :=
  if ms.any fun m => (db.recordAt m.relation t).isSome then [sumRecord n t (totalAt db ms t)] else []

section
variable {db : Database} {a r : String} {rs : List String} {ms : List Summand} {n : Name}
  {row : JoinedRow} {y : Record} {t : ℚ} {c : Chain}

/-! ## Joined rows -/

theorem value_timeOf {source : String} {g : List Scope} :
    (timeOf a rs).expr.value g (db.scope source row) = row.instant (a :: rs) := by
  cases rs with
  | nil =>
    show row.ref a timeColumn = (row.ref a timeColumn).or none
    rw [Option.or_none]
  | cons r rs => rfl

theorem isAggregate_timeOf : (timeOf a rs).expr.isAggregate = false := by
  cases rs <;> rfl

theorem rowRecord_sumChain (hms : ms ≠ []) {source : String} :
    rowRecord (sumChain a rs ms n).fields (db.scope source row) =
      [(timeColumn, row.instant (a :: rs)), (n.identifier, some (rowTotal ms row))] := by
  have hname : (timeOf a rs).name.identifier = timeColumn :=
    congrArg Name.identifier name_timeOf
  simp only [rowRecord, Group.record, sumChain, List.map_cons, List.map_nil, Field.value, hname,
    value_timeOf, Expr.value_signedSum_orZero hms]
  rfl

/-- The records at an instant come from the rows of that instant. -/
theorem recordsAt_sumChain (hms : ms ≠ []) :
    (sumChain a rs ms n).recordsAt db t =
      (((sumChain a rs ms n).rows db).filter fun row => row.instant (a :: rs) == some t).map
        fun row => sumRecord n t (rowTotal ms row) := by
  have hplain : ∀ f ∈ (sumChain a rs ms n).fields, f.expr.isAggregate = false := by
    simp only [sumChain, List.forall_mem_cons, isAggregate_timeOf, Expr.isAggregate_signedSum,
      List.any_map, List.any_eq_false]
    exact ⟨trivial, fun _ _ => by simp [Expr.isAggregate, Summand.expr], by simp⟩
  rw [Chain.recordsAt, records_chain hplain, List.filter_map]
  simp only [rowRecord_sumChain hms]
  have hget (row : JoinedRow) (x : ℚ) :
      Record.get [(timeColumn, row.instant (a :: rs)), (n.identifier, some x)] timeColumn =
        row.instant (a :: rs) := by
    simp [Record.get]
  rw [List.filter_congr fun row _ => by rw [Function.comp_apply, hget]]
  refine List.map_congr_left fun row hrow => ?_
  rw [show row.instant (a :: rs) = some t by simpa using (List.mem_filter.1 hrow).2]
  rfl

theorem rowTotal_rowAt (hms : ms.map Summand.relation = rs) :
    rowTotal ms (db.rowAt rs t) = totalAt db ms t := by
  unfold rowTotal totalAt
  congr 1
  refine List.map_congr_left fun m hm => ?_
  have hmem : m.relation ∈ rs := hms ▸ List.mem_map_of_mem hm
  simp only [JoinedRow.ref, Database.rowAt, hmem, if_true]
  rfl

/-- The row of the only reading holds the whole sum. -/
theorem rowTotal_single (hy : db.recordAt r t = some y)
    (honly : ∀ m ∈ ms, m.relation ≠ r → db.recordAt m.relation t = none) :
    rowTotal ms (JoinedRow.single r y) = totalAt db ms t := by
  unfold rowTotal totalAt
  congr 1
  refine List.map_congr_left fun m hm => ?_
  by_cases hr : m.relation = r
  · simp [JoinedRow.ref, Summand.reading, hr, hy]
  · simp [JoinedRow.ref, Summand.reading, JoinedRow.single_of_ne hr, honly m hm hr]

/-! ## Instants -/

theorem flatMap_toList_eq {α β : Type} {f : String → Option α} {g : String → α → β} :
    rs.flatMap (fun r => (f r).toList.map (g r)) =
      (rs.filter fun r => (f r).isSome).flatMap fun r => (f r).toList.map (g r) := by
  induction rs with
  | nil => rfl
  | cons r rs ih => cases h : f r <;> simp [h, ih]

theorem length_flatMap_toList {α β : Type} (rs : List String) (f : String → Option α)
    (g : String → α → β) :
    (rs.flatMap fun r => (f r).toList.map (g r)).length =
      (rs.filter fun r => (f r).isSome).length := by
  induction rs with
  | nil => rfl
  | cons r rs ih => cases h : f r <;> simp [h, ih]

/-- The relations other than the anchor that have a reading at the instant `t`. -/
def othersAt (db : Database) (rs : List String) (t : ℚ) : List String :=
  rs.filter fun r => (db.recordAt r t).isSome

/-- The records at an instant: one of all devices, or one for each device but the anchor. -/
theorem recordsAt_sumChain_eq (hn : (a :: rs).Nodup) (hu : db.OncePerInstant (a :: rs))
    (hms : ms.map Summand.relation = a :: rs) :
    (sumChain a rs ms n).recordsAt db t =
      if (db.recordAt a t).isSome then [sumRecord n t (totalAt db ms t)]
      else rs.flatMap fun r => (db.recordAt r t).toList.map fun y =>
        sumRecord n t (rowTotal ms (JoinedRow.single r y)) := by
  have hne : ms ≠ [] := by
    rintro rfl
    simp at hms
  have hrows : (sumChain a rs ms n).rows db = joinAll db a (rs.map (Join.onTime a))
      ((db.relation a).map (JoinedRow.single a)) := rfl
  rw [recordsAt_sumChain hne, hrows, filter_joinAll_onTime hn hu]
  split
  · rw [List.map_singleton, rowTotal_rowAt hms]
  · rw [List.map_flatMap]
    simp only [List.map_map]
    rfl

/-- Some device has a reading if the anchor has one, or one of the others. -/
theorem any_summands (hms : ms.map Summand.relation = a :: rs) :
    (ms.any fun m => (db.recordAt m.relation t).isSome) =
      ((db.recordAt a t).isSome || !(othersAt db rs t).isEmpty) := by
  have hothers : (rs.any fun r => (db.recordAt r t).isSome) = !(othersAt db rs t).isEmpty := by
    rw [Bool.eq_iff_iff]
    simp [othersAt, Option.isSome_iff_ne_none]
  rw [← hothers, ← List.any_cons (f := fun r => (db.recordAt r t).isSome), ← hms, List.any_map]
  rfl

/-- Where only one of the others has a reading, and the anchor has none, no further device has. -/
theorem recordAt_eq_none_of_alone (hms : ms.map Summand.relation = a :: rs)
    (ha : (db.recordAt a t).isSome = false) (hothers : othersAt db rs t = [r]) :
    ∀ m ∈ ms, m.relation ≠ r → db.recordAt m.relation t = none := by
  intro m hm hmr
  have hmem : m.relation ∈ a :: rs := hms ▸ List.mem_map_of_mem hm
  rcases List.mem_cons.1 hmem with hma | hmrs
  · rw [hma]
    simpa using ha
  · by_contra hsome
    have hother : m.relation ∈ othersAt db rs t :=
      List.mem_filter.2 ⟨hmrs, Option.isSome_iff_ne_none.2 hsome⟩
    rw [hothers] at hother
    exact hmr (List.mem_singleton.1 hother)

/-- **An instant gives the one record that it is to give exactly where the anchor has a reading, or
    at most one other device has.** -/
theorem recordsAt_eq_alignedSum_iff (hn : (a :: rs).Nodup) (hu : db.OncePerInstant (a :: rs))
    (hms : ms.map Summand.relation = a :: rs) :
    (sumChain a rs ms n).recordsAt db t = alignedSum db ms n t ↔
      (db.recordAt a t).isSome ∨ (othersAt db rs t).length ≤ 1 := by
  rw [recordsAt_sumChain_eq hn hu hms, alignedSum, any_summands hms]
  cases ha : (db.recordAt a t).isSome with
  | true => simp
  | false =>
    simp only [Bool.false_eq_true, if_false, Bool.false_or, false_or]
    match hp : othersAt db rs t with
    | [] =>
      rw [flatMap_toList_eq, show rs.filter _ = [] from hp]
      simp
    | [r] =>
      have hr : r ∈ othersAt db rs t := by simp [hp]
      obtain ⟨y, hy⟩ := Option.isSome_iff_exists.1 (List.mem_filter.1 hr).2
      rw [flatMap_toList_eq, show rs.filter _ = [r] from hp]
      simp [hy, rowTotal_single hy (recordAt_eq_none_of_alone hms ha hp)]
    | r :: s :: more =>
      -- Each of the others gives a record of its own, and there is to be one at most.
      have hlen := length_flatMap_toList rs (fun r => db.recordAt r t) fun r y =>
        sumRecord n t (rowTotal ms (JoinedRow.single r y))
      rw [show rs.filter _ = r :: s :: more from hp] at hlen
      refine iff_of_false (fun h => ?_) (by simp)
      rw [h] at hlen
      simp at hlen

end

/-! ## Statements -/

/-- The first relation has a reading at the instant `t`, or at most one of the others has. -/
def AnchoredAt (db : Database) (t : ℚ) : List String → Prop
  | [] => True
  | a :: rs => (db.recordAt a t).isSome ∨ (othersAt db rs t).length ≤ 1

/-- Two relations are aligned everywhere. -/
theorem anchoredAt_pair (db : Database) (t : ℚ) (a r : String) : AnchoredAt db t [a, r] :=
  .inr (List.length_filter_le _ [r])

/-- A sum over the devices of one family, or over those of a combination. -/
inductive DeviceSum where
  | family (f : Family) (ids : List ℕ) (q : Quantity)
  | combination (c : Combination) (label : String)

namespace DeviceSum

/-- The statement that selects the sum. -/
def statement : DeviceSum → Composed Statement
  | family f ids q => Combined.sum { family := f, ids := ids } q >>= Combined.statement
  | combination c label => c.total label

/-- The terms of the sum, one for each device. -/
def summands : DeviceSum → List Summand
  | family f ids q => f.summands .plus ids q
  | combination c _ => c.summands (·.quantity)

/-- The name of the column that holds the sum. -/
def columnName : DeviceSum → Name
  | family f _ q => f.familyName (f.catalogEntry q).column
  | combination c label => c.columnName label

/-- The relations of the devices, that of the anchor first. -/
def relations : DeviceSum → List String
  | family f ids _ => ids.map f.relation
  | combination c _ => c.relations

/-- No device is added twice.  The devices of a combination may belong to any families whose
    relations do not clash, and those of the house never do. -/
def Distinct : DeviceSum → Prop
  | family _ ids _ => ids.Nodup
  | combination c _ =>
    c.relations.Nodup ∨ ((∀ s ∈ c.active, s.family ∈ Family.all) ∧ c.devices.Nodup)

/-- The quantities are declared, and no totals over the window. -/
def Instant : DeviceSum → Prop
  | family f _ q => q.isWindowTotal = false ∧ f.Declares q
  | combination c _ => ∀ s ∈ c.active, s.quantity.isWindowTotal = false ∧ s.Declares

variable {p : DeviceSum}

theorem map_relation_summands (p : DeviceSum) : p.summands.map Summand.relation = p.relations := by
  cases p with
  | family f ids q => exact Family.map_relation_summands
  | combination c label => exact (Combination.relations_eq_map_summands _).symm

theorem Distinct.nodup_relations (h : p.Distinct) : p.relations.Nodup := by
  cases p with
  | family f ids q => exact Family.nodup_map_relation h
  | combination c label =>
    rcases h with h | ⟨hfamily, hdevices⟩
    · exact h
    · exact Combination.nodup_relations hfamily hdevices

/-- The sum of several devices is selected from a chain on the anchor's time. -/
theorem exists_sumChain (hlen : 2 ≤ p.relations.length) (hq : p.Instant) :
    ∃ s a rs, p.statement = .ok s ∧ p.relations = a :: rs ∧
      s.source = some (.derived (sumChain a rs p.summands p.columnName) derivedName) := by
  cases p with
  | family f ids q =>
    obtain ⟨hinstant, hd⟩ := hq
    rw [relations, List.length_map] at hlen
    obtain ⟨i, rest, rfl⟩ : ∃ i rest, ids = i :: rest :=
      List.exists_cons_of_ne_nil (by rintro rfl; simp at hlen)
    have hdeclared : ∀ p ∈ [q], f.Declares p := by simpa using hd
    refine ⟨_, f.relation i, rest.map f.relation,
      Fallible.bind_eq_ok.2 ⟨_, Combined.sum_eq_ok_iff.2 ⟨hinstant, by simp, hd, rfl⟩,
        Combined.statement_eq_ok_iff.2 ⟨i, rest, rfl, hdeclared, rfl⟩⟩, rfl, ?_⟩
    simp only [Combined.add, Family.sumOf_eq (f := f) (q := q) hlen]
    rfl
  | combination c label =>
    obtain ⟨a, rs, hr⟩ : ∃ a rs, c.relations = a :: rs :=
      List.exists_cons_of_ne_nil (by intro h; simp [relations, h] at hlen)
    exact ⟨_, a, rs, (Combination.total_eq_ok_iff (Combination.single?_eq_none hlen)).2
      ⟨hq, a, rs, hr, rfl⟩, hr, rfl⟩

end DeviceSum

/-- **The sum of several devices is aligned at exactly the anchored instants.** -/
theorem signedSum_aligned_iff (p : DeviceSum) (hn : p.Distinct) (hlen : 2 ≤ p.relations.length)
    (hq : p.Instant) (db : Database) (hu : db.OncePerInstant p.relations) (t : ℚ) :
    ∃ s c, p.statement = .ok s ∧ s.source = some (.derived c derivedName) ∧
      (c.recordsAt db t = alignedSum db p.summands p.columnName t ↔
        AnchoredAt db t p.relations) := by
  obtain ⟨s, a, rs, hs, hr, hsource⟩ := DeviceSum.exists_sumChain hlen hq
  have hms := p.map_relation_summands
  have hnodup := hn.nodup_relations
  rw [hr] at hms hu hnodup ⊢
  exact ⟨s, _, hs, hsource, recordsAt_eq_alignedSum_iff hnodup hu hms⟩

/-- Readings of two solar inverters at an instant at which a third, the anchor, has none. -/
def unanchored : Database where
  relation r :=
    if r = Family.solar.relation 8 then [[(timeColumn, some 0), ("power_w", some 300)]]
    else if r = Family.solar.relation 9 then [[(timeColumn, some 0), ("power_w", some 400)]]
    else []
  inWindow _ _ := true
  series _ _ _ := []
  boundary _ t := t
  text _ := none

theorem unanchored_oncePerInstant (rs : List String) : unanchored.OncePerInstant rs := by
  refine oncePerInstant_of_length_le_one fun r _ => ?_
  unfold unanchored
  dsimp only
  split_ifs <;> simp

/-- Three inverters are not aligned where the first has no reading, two devices are. -/
theorem signedSum_aligned_solar :
    (∃ s c, (DeviceSum.family .solar [1, 8, 9] .power).statement = .ok s ∧
      s.source = some (.derived c derivedName) ∧
      c.recordsAt unanchored 0 ≠ alignedSum unanchored
        (Family.solar.summands .plus [1, 8, 9] .power) (Family.solar.familyName "power_w") 0) ∧
    (∃ s c, Production.power [8] [1] = .ok s ∧ s.source = some (.derived c derivedName) ∧
      c.recordsAt unanchored 0 =
        [sumRecord ((Production.combination [8] [1] .power).columnName "power_w") 0 300]) := by
  have hapart : ¬AnchoredAt unanchored 0 ["solar1", "solar8", "solar9"] := by
    rw [AnchoredAt]
    decide +kernel
  obtain ⟨s, c, hs, hc, hinverters⟩ := signedSum_aligned_iff (.family .solar [1, 8, 9] .power)
    (show [1, 8, 9].Nodup by decide) (by decide) ⟨rfl, by decide⟩ unanchored
    (unanchored_oncePerInstant _) 0
  obtain ⟨t, d, ht, hd, hproduction⟩ := signedSum_aligned_iff
    (.combination (Production.combination [8] [1] .power) "power_w")
    (.inr ⟨by decide, by decide⟩) (by decide) (by unfold DeviceSum.Instant; decide) unanchored
    (unanchored_oncePerInstant _) 0
  refine ⟨⟨s, c, hs, hc, mt hinverters.1 hapart⟩, t, d, ht, hd, ?_⟩
  rw [hproduction.2 (anchoredAt_pair unanchored 0 "solar8" "generator1")]
  decide +kernel

/-- Without a reading of the anchor, the readings of one instant stand in different records. -/
theorem unanchored_readings_apart :
    ∃ s c, (DeviceSum.family .solar [1, 8, 9] .power).statement = .ok s ∧
      s.source = some (.derived c derivedName) ∧
      unanchored.OncePerInstant ["solar1", "solar8", "solar9"] ∧
      c.recordsAt unanchored 0 =
        [sumRecord (Family.solar.familyName "power_w") 0 300,
          sumRecord (Family.solar.familyName "power_w") 0 400] ∧
      alignedSum unanchored (Family.solar.summands .plus [1, 8, 9] .power)
          (Family.solar.familyName "power_w") 0 =
        [sumRecord (Family.solar.familyName "power_w") 0 700] := by
  refine ⟨_, _, rfl, rfl, unanchored_oncePerInstant _, ?_, ?_⟩
  · decide +kernel
  · decide +kernel

end EnergyQuery
