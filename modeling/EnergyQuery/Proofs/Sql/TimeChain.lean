/-
  Chains of full outer joins on equal times with the first relation, the anchor.

  Every condition of such a chain reads the time of the anchor, never that of
  another relation.  So a record of the anchor collects partners from every
  relation, while a record without a partner in the anchor stays alone, even
  where other such records have the same time.

  * `alongside` are the rows that one record of the anchor grows into,
    `isolated` the rows of a relation's records that no record of the anchor
    shares a time with;
  * `joinAll_onTime`: a chain gives the former, then the latter, relation by
    relation;
  * `exists_joinAll_iff`: no record is lost and none is made up;
  * `filter_joinAll_onTime`: where no relation has two records of one time, an
    instant gives a single row if the anchor has a record there, else one row
    for every other relation that has one.
-/
import EnergyQuery.Proofs.Sql.Execution
import Mathlib.Data.List.Induction
import Mathlib.Data.List.Nodup

namespace EnergyQuery.Sql

/-- The two records have the same time. -/
def Record.sameTime (x y : Record) : Bool :=
  (x.get timeColumn).any fun t => y.get timeColumn == some t

theorem Record.sameTime_iff {x y : Record} :
    x.sameTime y = true ↔ ∃ t, x.get timeColumn = some t ∧ y.get timeColumn = some t := by
  simp [Record.sameTime, Option.any_eq_true]

namespace Database
variable (db : Database)

/-- The records of `r` with the time of `x`. -/
def partners (x : Record) (r : String) : List Record :=
  (db.relation r).filter x.sameTime

/-- The row with each partner of `x` in the relation `r`, padded if there is none. -/
def widen (x : Record) (row : JoinedRow) (r : String) : List JoinedRow :=
  match db.partners x r with
  | [] => [row]
  | ys => ys.map fun y => Function.update row r (some y)

/-- The rows that the record `x` of the anchor grows into along the relations `rs`. -/
def alongside (a : String) (rs : List String) (x : Record) : List JoinedRow :=
  rs.foldl (fun rows r => rows.flatMap (db.widen x · r)) [JoinedRow.single a x]

/-- The records of `r` without a partner in the anchor `a`. -/
def unpaired (a r : String) : List Record :=
  (db.relation r).filter fun y => !(db.relation a).any (·.sameTime y)

/-- The rows of the records of `r` without a partner in the anchor `a`. -/
def isolated (a r : String) : List JoinedRow :=
  (db.unpaired a r).map (JoinedRow.single r)

end Database

section
variable {db : Database} {a r s : String} {rs : List String} {x y : Record} {row : JoinedRow}

@[simp] theorem JoinedRow.single_self : JoinedRow.single r x r = some x := by
  simp [JoinedRow.single]

theorem JoinedRow.single_of_ne (h : s ≠ r) : JoinedRow.single r x s = none := by
  simp [JoinedRow.single, h]

/-! ## Rows of one anchor record -/

theorem mem_widen_iff {row' : JoinedRow} :
    row' ∈ db.widen x row r ↔
      (db.partners x r = [] ∧ row' = row) ∨
        ∃ y ∈ db.partners x r, row' = Function.update row r (some y) := by
  unfold Database.widen
  split
  · next h => simp [h]
  · next h =>
    have hne : db.partners x r ≠ [] := h
    simp [hne, eq_comm]

theorem widen_ne_nil (db : Database) (x : Record) (row : JoinedRow) (r : String) :
    db.widen x row r ≠ [] := by
  unfold Database.widen
  split
  · simp
  · next h => simpa using h

@[simp] theorem alongside_nil : db.alongside a [] x = [JoinedRow.single a x] := rfl

theorem alongside_append_singleton :
    db.alongside a (rs ++ [r]) x = (db.alongside a rs x).flatMap (db.widen x · r) := by
  simp [Database.alongside]

theorem alongside_ne_nil (db : Database) (a : String) (rs : List String) (x : Record) :
    db.alongside a rs x ≠ [] := by
  induction rs using List.reverseRecOn with
  | nil => simp
  | append_singleton rs r ih =>
    obtain ⟨row, hrow⟩ := List.exists_mem_of_ne_nil _ ih
    obtain ⟨row', hrow'⟩ := List.exists_mem_of_ne_nil _ (widen_ne_nil db x row r)
    rw [alongside_append_singleton]
    exact List.ne_nil_of_mem (List.mem_flatMap.2 ⟨row, hrow, hrow'⟩)

/-- A row keeps the record that it has grown from. -/
theorem alongside_anchor (ha : a ∉ rs) (h : row ∈ db.alongside a rs x) : row a = some x := by
  induction rs using List.reverseRecOn generalizing row with
  | nil =>
    obtain rfl : row = JoinedRow.single a x := by simpa using h
    exact JoinedRow.single_self
  | append_singleton rs r ih =>
    simp only [List.mem_append, List.mem_singleton, not_or] at ha
    rw [alongside_append_singleton, List.mem_flatMap] at h
    obtain ⟨row₀, h₀, hw⟩ := h
    rcases mem_widen_iff.1 hw with ⟨-, rfl⟩ | ⟨y, -, rfl⟩
    · exact ih ha.1 h₀
    · rw [Function.update_of_ne ha.2]
      exact ih ha.1 h₀

/-- Whatever a row has of another relation is a partner of the record that it has grown from. -/
theorem alongside_partner (ha : r ≠ a) (h : row ∈ db.alongside a rs x) (hy : row r = some y) :
    r ∈ rs ∧ y ∈ db.partners x r := by
  induction rs using List.reverseRecOn generalizing row with
  | nil =>
    obtain rfl : row = JoinedRow.single a x := by simpa using h
    rw [JoinedRow.single_of_ne ha] at hy
    simp at hy
  | append_singleton rs s ih =>
    rw [alongside_append_singleton, List.mem_flatMap] at h
    obtain ⟨row₀, h₀, hw⟩ := h
    have hkeep (h' : row₀ r = some y) : r ∈ rs ++ [s] ∧ y ∈ db.partners x r :=
      ⟨List.mem_append_left _ (ih h₀ h').1, (ih h₀ h').2⟩
    rcases mem_widen_iff.1 hw with ⟨-, rfl⟩ | ⟨z, hz, rfl⟩
    · exact hkeep hy
    · by_cases hs : r = s
      · subst hs
        obtain rfl : z = y := by simpa using hy
        exact ⟨by simp, hz⟩
      · rw [Function.update_of_ne hs] at hy
        exact hkeep hy

/-- Every partner of a record occurs in some row that the record grows into. -/
theorem exists_alongside (hn : rs.Nodup) (hr : r ∈ rs) (hy : y ∈ db.partners x r) :
    ∃ row ∈ db.alongside a rs x, row r = some y := by
  induction rs using List.reverseRecOn with
  | nil => simp at hr
  | append_singleton rs s ih =>
    rw [List.nodup_append] at hn
    by_cases hs : r = s
    · subst hs
      obtain ⟨row, hrow⟩ := List.exists_mem_of_ne_nil _ (alongside_ne_nil db a rs x)
      refine ⟨Function.update row r (some y), ?_, by simp⟩
      rw [alongside_append_singleton, List.mem_flatMap]
      exact ⟨row, hrow, mem_widen_iff.2 (.inr ⟨y, hy, rfl⟩)⟩
    · have hr' : r ∈ rs := by simpa [hs] using hr
      obtain ⟨row, hrow, hry⟩ := ih hn.1 hr'
      obtain ⟨row', hrow'⟩ := List.exists_mem_of_ne_nil _ (widen_ne_nil db x row s)
      refine ⟨row', ?_, ?_⟩
      · rw [alongside_append_singleton, List.mem_flatMap]
        exact ⟨row, hrow, hrow'⟩
      · rcases mem_widen_iff.1 hrow' with ⟨-, rfl⟩ | ⟨z, -, rfl⟩
        · exact hry
        · rwa [Function.update_of_ne hs]

/-! ## One join -/

/-- The condition compares the record with the anchor's record, if the row has one. -/
theorem pairs_onTime (h : a ≠ r) {source : String} :
    (Join.onTime a r).pairs db source row y = (row a).any (·.sameTime y) := by
  have ha : (Function.update row r (some y)) a = row a := Function.update_of_ne h _ _
  simp only [Join.pairs, Join.onTime, Join.attach, Join.scopeName, Option.getD_none,
    Condition.holds, Expr.value, Database.scope, JoinedRow.ref, ha, Function.update_self,
    Option.bind_some, Record.sameTime, timeColumn]
  cases row a with
  | none => rfl
  | some x => rfl

/-- A row that has grown from `x` is widened by the partners of `x`. -/
theorem extend_onTime (h : a ≠ r) (hx : row a = some x) {source : String} :
    (Join.onTime a r).extend db source row = db.widen x row r := by
  have hp : (Join.onTime a r).pairs db source row = x.sameTime := by
    funext y
    rw [pairs_onTime h, hx, Option.any_some]
  unfold Join.extend Database.widen Database.partners
  rw [hp]
  rfl

/-- A row without a record of the anchor stays as it is. -/
theorem extend_onTime_of_none (h : a ≠ r) (hx : row a = none) {source : String} :
    (Join.onTime a r).extend db source row = [row] := by
  have hp : (db.relation r).filter ((Join.onTime a r).pairs db source row) = [] := by
    rw [List.filter_eq_nil_iff]
    intro y _
    rw [pairs_onTime h, hx, Option.any_none]
    simp
  unfold Join.extend
  rw [show (Join.onTime a r).relation = r from rfl, hp]
  rfl

/-- The rows before a join of the chain: those of the anchor, and isolated ones. -/
theorem any_pairs_onTime (h : a ≠ r) (ha : a ∉ rs) {source : String} :
    ((db.relation a).flatMap (db.alongside a rs) ++ rs.flatMap (db.isolated a)).any
        ((Join.onTime a r).pairs db source · y) = (db.relation a).any (·.sameTime y) := by
  rw [Bool.eq_iff_iff, List.any_eq_true, List.any_eq_true]
  constructor
  · rintro ⟨row, hrow, hp⟩
    rw [pairs_onTime h] at hp
    rcases List.mem_append.1 hrow with hrow | hrow
    · obtain ⟨x, hx, hrow⟩ := List.mem_flatMap.1 hrow
      rw [alongside_anchor ha hrow, Option.any_some] at hp
      exact ⟨x, hx, hp⟩
    · obtain ⟨s, hs, hrow⟩ := List.mem_flatMap.1 hrow
      obtain ⟨z, -, rfl⟩ := List.mem_map.1 hrow
      rw [JoinedRow.single_of_ne (ne_of_mem_of_not_mem hs ha).symm] at hp
      simp at hp
  · rintro ⟨x, hx, hxy⟩
    obtain ⟨row, hrow⟩ := List.exists_mem_of_ne_nil _ (alongside_ne_nil db a rs x)
    refine ⟨row, List.mem_append_left _ (List.mem_flatMap.2 ⟨x, hx, hrow⟩), ?_⟩
    rw [pairs_onTime h, alongside_anchor ha hrow, Option.any_some]
    exact hxy

/-! ## The chain -/

theorem joinAll_append {source : String} {l m : List Join} {rows : List JoinedRow} :
    joinAll db source (l ++ m) rows = joinAll db source m (joinAll db source l rows) := by
  simp [joinAll]

theorem joinAll_singleton {source : String} {j : Join} {rows : List JoinedRow} :
    joinAll db source [j] rows = j.apply db source rows := rfl

/-- **A chain on the anchor's time gives the rows of the anchor's records, then the records
    without a partner in the anchor**, relation by relation. -/
theorem joinAll_onTime (hn : (a :: rs).Nodup) {source : String} :
    joinAll db source (rs.map (Join.onTime a)) ((db.relation a).map (JoinedRow.single a)) =
      (db.relation a).flatMap (db.alongside a rs) ++ rs.flatMap (db.isolated a) := by
  induction rs using List.reverseRecOn with
  | nil =>
    rw [List.map_nil, List.flatMap_nil, List.append_nil, List.map_eq_flatMap]
    rfl
  | append_singleton rs r ih =>
    rw [← List.cons_append, List.nodup_append] at hn
    obtain ⟨hn, -, hdis⟩ := hn
    have ha : a ∉ rs := (List.nodup_cons.1 hn).1
    have har : a ≠ r := hdis a (by simp) r (by simp)
    have hanchored : ((db.relation a).flatMap (db.alongside a rs)).flatMap
          ((Join.onTime a r).extend db source) =
        (db.relation a).flatMap (db.alongside a (rs ++ [r])) := by
      rw [List.flatMap_assoc]
      refine List.flatMap_congr fun x _ => ?_
      rw [alongside_append_singleton]
      exact List.flatMap_congr fun row hrow => extend_onTime har (alongside_anchor ha hrow)
    -- A record that stands alone has no time of the anchor by which it could be joined further.
    have hisolated : (rs.flatMap (db.isolated a)).flatMap ((Join.onTime a r).extend db source) =
        rs.flatMap (db.isolated a) := by
      conv_rhs => rw [← List.flatMap_singleton' (rs.flatMap (db.isolated a))]
      refine List.flatMap_congr fun row hrow => ?_
      obtain ⟨s, hs, hrow⟩ := List.mem_flatMap.1 hrow
      obtain ⟨z, -, rfl⟩ := List.mem_map.1 hrow
      exact extend_onTime_of_none har (JoinedRow.single_of_ne (ne_of_mem_of_not_mem hs ha).symm)
    have halone : (Join.onTime a r).alone db source
        ((db.relation a).flatMap (db.alongside a rs) ++ rs.flatMap (db.isolated a)) =
          db.isolated a r := by
      have hkeep : (Join.onTime a r).kind.keepsRight = true := rfl
      rw [Join.alone, if_pos hkeep]
      refine congrArg (List.map (JoinedRow.single r)) (List.filter_congr fun y _ => ?_)
      rw [any_pairs_onTime har ha]
    rw [List.map_append, joinAll_append, ih hn, List.map_singleton, joinAll_singleton, Join.apply,
      halone, List.flatMap_append, hanchored, hisolated, List.flatMap_append, List.append_assoc,
      List.flatMap_singleton]

/-- **No record is lost and none is made up**: the rows of a chain hold exactly the records of
    each relation. -/
theorem exists_joinAll_iff (source : String) (hn : (a :: rs).Nodup) (hr : r ∈ a :: rs) :
    (∃ row ∈ joinAll db source (rs.map (Join.onTime a))
        ((db.relation a).map (JoinedRow.single a)), row r = some y) ↔ y ∈ db.relation r := by
  obtain ⟨ha, hrs⟩ := List.nodup_cons.1 hn
  rw [joinAll_onTime hn]
  constructor
  · rintro ⟨row, hrow, hy⟩
    rcases List.mem_append.1 hrow with hrow | hrow
    · obtain ⟨x, hx, hrow⟩ := List.mem_flatMap.1 hrow
      by_cases hra : r = a
      · subst hra
        rw [alongside_anchor ha hrow] at hy
        obtain rfl := Option.some.inj hy
        exact hx
      · exact (List.mem_filter.1 (alongside_partner hra hrow hy).2).1
    · obtain ⟨s, hs, hrow⟩ := List.mem_flatMap.1 hrow
      obtain ⟨z, hz, rfl⟩ := List.mem_map.1 hrow
      by_cases hrs : r = s
      · subst hrs
        obtain rfl : z = y := by simpa using hy
        exact (List.mem_filter.1 hz).1
      · rw [JoinedRow.single_of_ne hrs] at hy
        simp at hy
  · intro hy
    by_cases hra : r = a
    · subst hra
      obtain ⟨row, hrow⟩ := List.exists_mem_of_ne_nil _ (alongside_ne_nil db r rs y)
      exact ⟨row, List.mem_append_left _ (List.mem_flatMap.2 ⟨y, hy, hrow⟩),
        alongside_anchor ha hrow⟩
    · have hr' : r ∈ rs := by simpa [hra] using hr
      -- A record with a partner in the anchor is in the rows of that one, else in a row of its own.
      by_cases hp : (db.relation a).any (·.sameTime y) = true
      · obtain ⟨x, hx, hxy⟩ := List.any_eq_true.1 hp
        obtain ⟨row, hrow, h⟩ := exists_alongside (a := a) hrs hr'
          (List.mem_filter.2 ⟨hy, hxy⟩ : y ∈ db.partners x r)
        exact ⟨row, List.mem_append_left _ (List.mem_flatMap.2 ⟨x, hx, hrow⟩), h⟩
      · refine ⟨JoinedRow.single r y, List.mem_append_right _ (List.mem_flatMap.2 ⟨r, hr', ?_⟩),
          JoinedRow.single_self⟩
        exact List.mem_map.2 ⟨y, List.mem_filter.2 ⟨hy, by simpa using hp⟩, rfl⟩

end

/-! ## The rows of one instant -/

/-- The time of a joined row: that of the first relation that has one. -/
def JoinedRow.instant (row : JoinedRow) (rs : List String) : Value :=
  firstPresent (rs.map fun r => row.ref r timeColumn)

namespace Database
variable (db : Database)

/-- The record of `r` at the instant `t`. -/
def recordAt (r : String) (t : ℚ) : Option Record :=
  (db.relation r).find? fun y => y.get timeColumn == some t

/-- No relation has two records of one time.  Records without a time do not count. -/
def OncePerInstant (rs : List String) : Prop :=
  ∀ r ∈ rs, ∀ t : ℚ, ((db.relation r).filter fun y => y.get timeColumn == some t).length ≤ 1

/-- The records of all relations at the instant `t`, in one row. -/
def rowAt (rs : List String) (t : ℚ) : JoinedRow := fun r =>
  if r ∈ rs then db.recordAt r t else none

end Database

section
variable {db : Database} {a r : String} {rs : List String} {x y : Record} {row : JoinedRow} {t : ℚ}

/-- Where there is one record at most, there are no two of one time. -/
theorem oncePerInstant_of_length_le_one (h : ∀ r ∈ rs, (db.relation r).length ≤ 1) :
    db.OncePerInstant rs :=
  fun r hr _ => (List.length_filter_le _ _).trans (h r hr)

/-- Among at most one, the first that fits is all that fit. -/
theorem filter_eq_toList_find? {α : Type} {p : α → Bool} {l : List α}
    (h : (l.filter p).length ≤ 1) : l.filter p = (l.find? p).toList := by
  rw [← List.head?_filter]
  match hl : l.filter p with
  | [] => rfl
  | [_] => rfl
  | _ :: _ :: _ => simp [hl] at h

theorem flatMap_filter_eq_ite {α β : Type} {p : α → Bool} {f : α → List β} (l : List α) :
    (l.filter p).flatMap f = l.flatMap fun x => if p x then f x else [] := by
  induction l with
  | nil => rfl
  | cons x l ih => by_cases h : p x <;> simp [h, ih]

theorem recordAt_isSome_iff :
    (db.recordAt r t).isSome ↔ ∃ y ∈ db.relation r, y.get timeColumn = some t := by
  simp [Database.recordAt]

/-- The partners of a record at `t` are what the relation has at `t`. -/
theorem partners_of_time (hu : db.OncePerInstant [r]) (hx : x.get timeColumn = some t) :
    db.partners x r = (db.recordAt r t).toList := by
  have hsame : x.sameTime = fun y => y.get timeColumn == some t := by
    funext y
    rw [Record.sameTime, hx, Option.any_some]
  rw [Database.partners, hsame, Database.recordAt,
    filter_eq_toList_find? (hu r (List.mem_singleton_self r) t)]

theorem partners_of_time_none (hx : x.get timeColumn = none) : db.partners x r = [] := by
  simp [Database.partners, Record.sameTime, hx]

/-- **Where no relation has two records of one time, a record of the anchor grows into one row**,
    which holds all that the relations have at its time. -/
theorem alongside_eq_rowAt (hn : (a :: rs).Nodup) (hu : db.OncePerInstant (a :: rs))
    (hx : db.recordAt a t = some x) : db.alongside a rs x = [db.rowAt (a :: rs) t] := by
  have ht : x.get timeColumn = some t := by simpa using List.find?_some hx
  induction rs using List.reverseRecOn with
  | nil =>
    rw [alongside_nil]
    congr 1
    funext s
    by_cases hs : s = a
    · subst hs
      simp [Database.rowAt, hx]
    · simp [Database.rowAt, hs, JoinedRow.single_of_ne]
  | append_singleton rs r ih =>
    rw [← List.cons_append, List.nodup_append] at hn
    have hr : r ∉ a :: rs := fun h => hn.2.2 r h r (by simp) rfl
    have hur : db.OncePerInstant [r] := fun s hs => hu s (by simp_all)
    have hus : db.OncePerInstant (a :: rs) := fun s hs => hu s (by
      rw [← List.cons_append]
      exact List.mem_append_left _ hs)
    rw [alongside_append_singleton, ih hn.1 hus, List.flatMap_singleton, Database.widen,
      partners_of_time hur ht]
    -- The relation adds its only record of the instant, or pads the row if it has none.
    cases hrt : db.recordAt r t with
    | none =>
      simp only [Option.toList_none, List.cons.injEq, and_true]
      funext s
      by_cases hs : s = r
      · subst hs
        simp [Database.rowAt, hr, hrt]
      · simp [Database.rowAt, hs]
    | some y =>
      simp only [Option.toList_some, List.map_cons, List.map_nil, List.cons.injEq, and_true]
      funext s
      by_cases hs : s = r
      · subst hs
        simp [Database.rowAt, hrt]
      · simp [Database.rowAt, hs]

/-- A row of the anchor has the anchor's time, and none if the anchor has none. -/
theorem instant_alongside (ha : a ∉ rs) (h : row ∈ db.alongside a rs x) :
    row.instant (a :: rs) = x.get timeColumn := by
  have hra : row.ref a timeColumn = x.get timeColumn := by
    rw [JoinedRow.ref, alongside_anchor ha h, Option.bind_some]
  rw [JoinedRow.instant, List.map_cons, firstPresent, hra]
  cases hx : x.get timeColumn with
  | some t => rfl
  | none =>
    rw [Option.none_or]
    refine firstPresent_eq_none fun v hv => ?_
    obtain ⟨r, hr, rfl⟩ := List.mem_map.1 hv
    cases hrow : row r with
    | none => simp [JoinedRow.ref, hrow]
    | some y =>
      have hy := (alongside_partner (ne_of_mem_of_not_mem hr ha) h hrow).2
      rw [partners_of_time_none hx] at hy
      simp at hy

/-- A row of a single record has the record's time. -/
theorem instant_single (hr : r ∈ rs) : (JoinedRow.single r y).instant rs = y.get timeColumn := by
  have hself : (JoinedRow.single r y).ref r timeColumn = y.get timeColumn := by
    simp [JoinedRow.ref]
  refine firstPresent_eq (fun v hv => ?_) (List.mem_map.2 ⟨r, hr, hself⟩)
  obtain ⟨s, -, rfl⟩ := List.mem_map.1 hv
  by_cases hs : s = r
  · subst hs
    exact .inr hself
  · exact .inl (by simp [JoinedRow.ref, JoinedRow.single_of_ne hs])

/-- Without a record of the anchor at `t`, what a relation has at `t` is alone. -/
theorem filter_isolated (hu : db.OncePerInstant [r]) (hr : r ∈ rs) :
    (db.isolated a r).filter (fun row => row.instant rs == some t) =
      if (db.recordAt a t).isSome then []
      else (db.recordAt r t).toList.map (JoinedRow.single r) := by
  have hfilter : (db.isolated a r).filter (fun row => row.instant rs == some t) =
      ((db.unpaired a r).filter fun y => y.get timeColumn == some t).map (JoinedRow.single r) := by
    rw [Database.isolated, List.filter_map]
    congr 1
    refine List.filter_congr fun y _ => ?_
    rw [Function.comp_apply, instant_single hr]
  have hpaired {y : Record} (hy : y.get timeColumn = some t) :
      (db.relation a).any (·.sameTime y) = (db.recordAt a t).isSome := by
    rw [Bool.eq_iff_iff, List.any_eq_true, recordAt_isSome_iff]
    refine exists_congr fun x => and_congr_right fun _ => ?_
    simp [Record.sameTime_iff, hy]
  have hswap : (db.unpaired a r).filter (fun y => y.get timeColumn == some t) =
      ((db.relation r).filter fun y => y.get timeColumn == some t).filter
        fun _ => !(db.recordAt a t).isSome := by
    rw [Database.unpaired, List.filter_comm]
    refine List.filter_congr fun y hy => ?_
    rw [hpaired (by simpa using (List.mem_filter.1 hy).2)]
  rw [hfilter, hswap, filter_eq_toList_find? (hu r (List.mem_singleton_self r) t)]
  cases h : (db.recordAt a t).isSome with
  | true => simp
  | false => simp [Database.recordAt]

/-- **The rows of a chain at one instant**: a single row of all relations if the anchor has a
    record there, else one row for every other relation that has one. -/
theorem filter_joinAll_onTime (hn : (a :: rs).Nodup) (hu : db.OncePerInstant (a :: rs))
    {source : String} :
    (joinAll db source (rs.map (Join.onTime a))
        ((db.relation a).map (JoinedRow.single a))).filter
        (fun row => row.instant (a :: rs) == some t) =
      if (db.recordAt a t).isSome then [db.rowAt (a :: rs) t]
      else rs.flatMap fun r => (db.recordAt r t).toList.map (JoinedRow.single r) := by
  have ha : a ∉ rs := (List.nodup_cons.1 hn).1
  have hua : ((db.relation a).filter fun y => y.get timeColumn == some t).length ≤ 1 :=
    hu a (by simp) t
  have hanchored : ((db.relation a).flatMap (db.alongside a rs)).filter
        (fun row => row.instant (a :: rs) == some t) =
      (db.recordAt a t).toList.flatMap (db.alongside a rs) := by
    rw [Database.recordAt, ← filter_eq_toList_find? hua, List.filter_flatMap,
      flatMap_filter_eq_ite]
    refine List.flatMap_congr fun x _ => ?_
    have hrow : ∀ row ∈ db.alongside a rs x,
        (row.instant (a :: rs) == some t) = (x.get timeColumn == some t) :=
      fun row h => by rw [instant_alongside ha h]
    rw [List.filter_congr hrow]
    cases x.get timeColumn == some t <;> simp
  -- A record stands alone only where the anchor has no record of its time.
  have hisolated : (rs.flatMap (db.isolated a)).filter
        (fun row => row.instant (a :: rs) == some t) =
      if (db.recordAt a t).isSome then []
      else rs.flatMap fun r => (db.recordAt r t).toList.map (JoinedRow.single r) := by
    rw [List.filter_flatMap]
    have hrow : ∀ r ∈ rs, (db.isolated a r).filter (fun row => row.instant (a :: rs) == some t) =
        if (db.recordAt a t).isSome then []
        else (db.recordAt r t).toList.map (JoinedRow.single r) := fun r hr =>
      filter_isolated (fun s hs => hu s (by simp_all)) (List.mem_cons_of_mem a hr)
    rw [List.flatMap_congr hrow]
    cases (db.recordAt a t).isSome <;> simp
  rw [joinAll_onTime hn, List.filter_append, hanchored, hisolated]
  cases h : db.recordAt a t with
  | none => simp
  | some x => simp [alongside_eq_rowAt hn hu h]

end

end EnergyQuery.Sql
