/-
  Names of relations and of output columns.

  A relation is named by the basename of its family and the number of the
  device.  No basename of a family of a house holds a digit, so that the name
  gives both back, and no table of a house has such a name.

  * `append_inj_of_stops`: a text is cut in one way only where a run of characters
    ends;
  * `relation_inj`, `relation_append_inj_of_mem_all`: devices have different
    relations, within a family and across those of a house;
  * `relation_ne_of_digitFree`: a text without digits names no relation;
  * `deviceLabel_inj`, `familyLabel_ne_deviceLabel`: output columns of different
    devices, and those of the whole family, have different names.
-/
import EnergyQuery.Device.Catalog
import EnergyQuery.Proofs.Runs
import EnergyQuery.Proofs.Sql.Spelling
import Mathlib

namespace EnergyQuery

/-! ## Digits -/

/-- The text has no decimal digit. -/
def digitFree (s : String) : Bool :=
  s.toList.all (!·.isDigit)

/-- A number is written with digits only, and with at least one. -/
theorem exists_toString_eq_cons (n : Nat) :
    ∃ c cs, (toString n).toList = c :: cs ∧ c.isDigit = true := by
  obtain ⟨c, cs, hc⟩ := List.exists_cons_of_ne_nil (Nat.toDigits_ne_nil (n := n) (b := 10))
  exact ⟨c, cs, by simpa using hc, Sql.isDigit_of_mem_toString (n := n) (by simp [hc])⟩

/-! ## Texts that are put together -/

/-- **A text is cut in one way where a run of characters ends.** -/
theorem append_inj_of_stops {p : Char → Bool} {s t u v : String} (hs : ∀ c ∈ s.toList, p c = true)
    (ht : ∀ c ∈ t.toList, p c = true) (hu : Stops p u.toList) (hv : Stops p v.toList) :
    s ++ u = t ++ v ↔ s = t ∧ u = v := by
  constructor
  · intro h
    have hst : s = t := by
      rw [← String.toList_inj, ← takeWhile_append_of_stops hs hu, ← String.toList_append, h,
        String.toList_append, takeWhile_append_of_stops ht hv]
    subst hst
    exact ⟨rfl, (String.append_right_inj s).1 h⟩
  · rintro ⟨rfl, rfl⟩
    rfl

/-- A run that a point does not belong to ends where one follows. -/
theorem stops_point {p : Char → Bool} (h : p '.' = false) (l : String) :
    Stops p ("." ++ l).toList := by
  rw [String.toList_append]
  exact stops_cons h

/-- A number ends where something else than a digit follows. -/
theorem toString_append_inj {m n : Nat} {s t : String} (hs : Stops Char.isDigit s.toList)
    (ht : Stops Char.isDigit t.toList) :
    toString m ++ s = toString n ++ t ↔ m = n ∧ s = t := by
  have hdigits (n : Nat) : ∀ c ∈ (toString n).toList, c.isDigit = true :=
    fun _ => Sql.isDigit_of_mem_toString
  rw [append_inj_of_stops (hdigits m) (hdigits n) hs ht]
  exact and_congr_left fun _ => Nat.repr_inj

/-- A text without digits, a number, and what follows it without going on with a digit, are all
    found again in the text that they make. -/
theorem append_toString_append_inj {s t u v : String} {m n : Nat} (hs : digitFree s = true)
    (ht : digitFree t = true) (hu : Stops Char.isDigit u.toList)
    (hv : Stops Char.isDigit v.toList) :
    s ++ toString m ++ u = t ++ toString n ++ v ↔ s = t ∧ m = n ∧ u = v := by
  have hstops (n : Nat) (u : String) : Stops (!·.isDigit) (toString n ++ u).toList := by
    obtain ⟨c, cs, hc, hdigit⟩ := exists_toString_eq_cons n
    rw [String.toList_append, hc]
    exact stops_cons (by simp [hdigit])
  rw [String.append_assoc, String.append_assoc,
    append_inj_of_stops (List.all_eq_true.1 hs) (List.all_eq_true.1 ht) (hstops m u) (hstops n v),
    toString_append_inj hu hv]

/-! ## Relations -/

namespace Family
variable {f g : Family} {i j : Nat} {s : String}

theorem relation_inj : f.relation i = f.relation j ↔ i = j := by
  rw [relation, relation, String.append_right_inj]
  exact Nat.repr_inj

theorem nodup_map_relation {ids : List Nat} (h : ids.Nodup) : (ids.map f.relation).Nodup :=
  List.Nodup.map (fun _ _ hij => relation_inj.1 hij) h

theorem digitFree_basename : ∀ f ∈ all, digitFree f.basename = true := by decide

theorem digitFree_table : ∀ f ∈ all, digitFree f.table = true := by decide

theorem eq_of_basename_eq : ∀ f ∈ all, ∀ g ∈ all, f.basename = g.basename → f = g := by decide

/-- **The relation of a device of a house names its family and its number**, whatever follows it
    that does not go on with a digit. -/
theorem relation_append_inj_of_mem_all {t : String} (hf : f ∈ all) (hg : g ∈ all)
    (hs : Stops Char.isDigit s.toList) (ht : Stops Char.isDigit t.toList) :
    f.relation i ++ s = g.relation j ++ t ↔ f = g ∧ i = j ∧ s = t := by
  rw [relation, relation,
    append_toString_append_inj (digitFree_basename f hf) (digitFree_basename g hg) hs ht]
  refine and_congr_left fun _ => ⟨eq_of_basename_eq f hf g hg, ?_⟩
  rintro rfl
  rfl

theorem relation_inj_of_mem_all (hf : f ∈ all) (hg : g ∈ all) :
    f.relation i = g.relation j ↔ f = g ∧ i = j := by
  simpa using relation_append_inj_of_mem_all (i := i) (j := j) (s := "") (t := "") hf hg stops_nil
    stops_nil

theorem relation_append_inj {t : String} (hs : Stops Char.isDigit s.toList)
    (ht : Stops Char.isDigit t.toList) :
    f.relation i ++ s = f.relation j ++ t ↔ i = j ∧ s = t := by
  rw [relation, relation, String.append_assoc, String.append_assoc, String.append_right_inj,
    toString_append_inj hs ht]

theorem relation_append_ne_of_digitFree {t : String} (hs : digitFree s = true) :
    f.relation i ++ t ≠ s := by
  rintro rfl
  obtain ⟨c, cs, hc, hdigit⟩ := exists_toString_eq_cons i
  have hmem : c ∈ (f.relation i ++ t).toList := by
    rw [relation, String.toList_append, String.toList_append, hc]
    simp
  have hnot := List.all_eq_true.1 hs c hmem
  simp [hdigit] at hnot

theorem relation_ne_of_digitFree (hs : digitFree s = true) : f.relation i ≠ s := by
  simpa using relation_append_ne_of_digitFree (f := f) (i := i) (t := "") hs

/-- No table of a house is named like a relation. -/
theorem relation_ne_table (hg : g ∈ all) : f.relation i ≠ g.table :=
  relation_ne_of_digitFree (digitFree_table g hg)

/-! ## Output columns -/

theorem deviceLabel_inj {l k : String} :
    f.relation i ++ "." ++ l = f.relation j ++ "." ++ k ↔ i = j ∧ l = k := by
  rw [String.append_assoc, String.append_assoc,
    relation_append_inj (stops_point rfl l) (stops_point rfl k), String.append_right_inj]

theorem familyLabel_ne_deviceLabel {l k : String} :
    f.basename ++ "." ++ l ≠ f.relation i ++ "." ++ k := by
  intro h
  obtain ⟨c, cs, hc, hdigit⟩ := exists_toString_eq_cons i
  have hrest : "." ++ l = toString i ++ ("." ++ k) := by
    simpa only [relation, String.append_assoc, String.append_right_inj] using h
  have hhead := congrArg (fun s : String => s.toList.head?) hrest
  rw [String.toList_append, String.toList_append, hc] at hhead
  obtain rfl : '.' = c := by simpa using hhead
  simp at hdigit

theorem familyLabel_inj {l k : String} :
    f.basename ++ "." ++ l = f.basename ++ "." ++ k ↔ l = k := by
  rw [String.append_right_inj]

end Family

/-- No output column of devices is the time. -/
theorem time_ne_label {s l : String} : Sql.timeColumn ≠ s ++ "." ++ l := by
  intro h
  have hpoint : '.' ∈ Sql.timeColumn.toList := by simp [h]
  simp [Sql.timeColumn] at hpoint

theorem nodup_time_label {s l : String} : [Sql.timeColumn, s ++ "." ++ l].Nodup := by
  simpa using time_ne_label

end EnergyQuery
