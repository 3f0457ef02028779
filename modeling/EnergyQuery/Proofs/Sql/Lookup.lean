/-
  Left outer joins that look up one record.

  A lookup attaches the record that a relation has at an instant, which a column
  of the first relation tells, the anchor.  A relation can be looked up several
  times, each under a name of its own.

  * `extend_lookup`: where the relation has no two records of one time, every row
    gives one row;
  * `joinAll_lookups`: so do the records of the anchor, each with all that is
    looked up for it.
-/
import EnergyQuery.Proofs.Sql.TimeChain

namespace EnergyQuery.Sql

/-- The record of `relation` at the instant in `column` of the anchor, under the name `scope`. -/
structure Lookup where
  scope : String
  relation : String
  column : String

namespace Lookup

/-- The join that looks the record up. -/
def join (anchor : String) (l : Lookup) : Join where
  kind := .leftOuter
  relation := l.relation
  alias? := some l.scope
  condition := .equal (.ref l.scope timeColumn) (.ref anchor l.column)

/-- What is found for a record of the anchor. -/
def found (db : Database) (x : Record) (l : Lookup) : Option Record :=
  (x.get l.column).bind (db.recordAt l.relation)

end Lookup

/-- A record of the anchor `a`, with all that is looked up for it. -/
def Database.lookedUp (db : Database) (a : String) (ls : List Lookup) (x : Record) : JoinedRow :=
  fun s => if s = a then some x else (ls.find? (·.scope == s)).bind (·.found db x)

section
variable {db : Database} {a source : String} {l : Lookup} {ls : List Lookup} {row : JoinedRow}
  {x y : Record}

/-! ## One lookup -/

/-- The condition compares the instant with the time of the record. -/
theorem pairs_lookup (ha : a ≠ l.scope) (hx : row a = some x) :
    (l.join a).pairs db source row y =
      (x.get l.column).any fun t => y.get timeColumn == some t := by
  have hrow : (Function.update row l.scope (some y)) a = some x := by
    rw [Function.update_of_ne ha, hx]
  simp only [Join.pairs, Lookup.join, Join.attach, Join.scopeName, Option.getD_some,
    Condition.holds, Expr.value, Database.scope, JoinedRow.ref, hrow, Function.update_self,
    Option.bind_some]
  cases x.get l.column <;> cases y.get timeColumn <;> simp [eq_comm]

/-- **A lookup gives one row**, with the record that is found. -/
theorem extend_lookup (hu : db.OncePerInstant [l.relation]) (ha : a ≠ l.scope)
    (hx : row a = some x) (hfree : row l.scope = none) :
    (l.join a).extend db source row = [Function.update row l.scope (l.found db x)] := by
  have hpartners : (db.relation l.relation).filter ((l.join a).pairs db source row) =
      (l.found db x).toList := by
    have hpairs : (l.join a).pairs db source row = fun y =>
        (x.get l.column).any fun t => y.get timeColumn == some t :=
      funext fun y => pairs_lookup ha hx
    rw [hpairs, Lookup.found]
    cases x.get l.column with
    | none => simp
    | some t => exact filter_eq_toList_find? (hu _ (List.mem_singleton_self _) t)
  unfold Join.extend
  rw [show (l.join a).relation = l.relation from rfl, hpartners]
  cases l.found db x with
  | none =>
    have hsame : Function.update row l.scope none = row := by
      rw [← hfree, Function.update_eq_self]
    rw [hsame]
    rfl
  | some y => rfl

/-! ## Several lookups -/

theorem lookedUp_anchor : db.lookedUp a ls x a = some x := if_pos rfl

/-- What is looked up under a name is found there. -/
theorem lookedUp_scope (hn : (a :: ls.map (·.scope)).Nodup) (hl : l ∈ ls) :
    db.lookedUp a ls x l.scope = l.found db x := by
  rw [List.nodup_cons] at hn
  have hne : l.scope ≠ a := ne_of_mem_of_not_mem (List.mem_map_of_mem hl) hn.1
  have hfind : ls.find? (·.scope == l.scope) = some l := by
    cases h : ls.find? (·.scope == l.scope) with
    | none => simpa using List.find?_eq_none.1 h l hl
    | some k =>
      have hk : k.scope = l.scope := by simpa using List.find?_some h
      rw [List.inj_on_of_nodup_map hn.2 (List.mem_of_find?_eq_some h) hl hk]
  rw [Database.lookedUp, if_neg hne, hfind, Option.bind_some]

theorem find?_scope_eq_none {s : String} (hs : s ∉ ls.map (·.scope)) :
    ls.find? (·.scope == s) = none := by
  rw [List.find?_eq_none]
  intro l hl
  simpa using ne_of_mem_of_not_mem (List.mem_map_of_mem hl) hs

theorem lookedUp_of_not_mem {s : String} (hs : s ∉ a :: ls.map (·.scope)) :
    db.lookedUp a ls x s = none := by
  rw [List.mem_cons, not_or] at hs
  rw [Database.lookedUp, if_neg hs.1, find?_scope_eq_none hs.2, Option.bind_none]

theorem lookedUp_append_singleton (hl : l.scope ∉ a :: ls.map (·.scope)) :
    db.lookedUp a (ls ++ [l]) x =
      Function.update (db.lookedUp a ls x) l.scope (l.found db x) := by
  funext s
  rw [List.mem_cons, not_or] at hl
  by_cases hs : s = l.scope
  · subst hs
    rw [Function.update_self, Database.lookedUp, if_neg hl.1, List.find?_append,
      find?_scope_eq_none hl.2]
    simp
  · rw [Function.update_of_ne hs, Database.lookedUp, Database.lookedUp, List.find?_append]
    simp [Ne.symm hs]

/-- **Each record of the anchor gives one row**, with all that is looked up for it. -/
theorem joinAll_lookups (hn : (a :: ls.map (·.scope)).Nodup)
    (hu : db.OncePerInstant (ls.map (·.relation))) :
    joinAll db source (ls.map (·.join a)) ((db.relation a).map (JoinedRow.single a)) =
      (db.relation a).map (db.lookedUp a ls) := by
  induction ls using List.reverseRecOn with
  | nil =>
    refine List.map_congr_left fun x _ => funext fun s => ?_
    by_cases hs : s = a
    · subst hs
      simp [Database.lookedUp]
    · simp [Database.lookedUp, hs, JoinedRow.single_of_ne hs]
  | append_singleton ls l ih =>
    rw [List.map_append, ← List.cons_append, List.nodup_append] at hn
    have hl : l.scope ∉ a :: ls.map (·.scope) := fun h => hn.2.2 _ h l.scope (by simp) rfl
    have hul : db.OncePerInstant [l.relation] := fun r hr => hu r (by simp_all)
    have hus : db.OncePerInstant (ls.map (·.relation)) := fun r hr => hu r (by simp_all)
    have hkeeps : (l.join a).kind.keepsRight = false := rfl
    rw [List.map_append, joinAll_append, ih hn.1 hus, List.map_singleton, joinAll_singleton,
      Join.apply, Join.alone, hkeeps, if_neg Bool.false_ne_true, List.append_nil,
      List.flatMap_map, List.map_eq_flatMap]
    refine List.flatMap_congr fun x _ => ?_
    rw [extend_lookup hul (fun h => hl (h ▸ List.mem_cons_self)) lookedUp_anchor
      (lookedUp_of_not_mem hl), lookedUp_append_singleton hl]

end

end EnergyQuery.Sql
