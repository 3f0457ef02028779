/-
  How signed sums are written.

  A sum is a tree that leans to the left.  Its terms bind tighter than it does,
  so that it is written without parentheses: term after term, each behind its
  sign, which a first term that is added goes without.

  * `writtenSum`: the terms behind their signs;
  * `Expr.write_signedSum`, `Expr.text_spanSum`: the written forms of the two
    sums.
-/
import EnergyQuery.Sql.Expr
import Mathlib.Data.List.Basic

namespace EnergyQuery.Sql

namespace Sign

/-- The operator that adds a term with this sign. -/
def text : Sign → String
  | plus => "+"
  | minus => "-"

/-- The sign of a first term. -/
def leadText : Sign → String
  | plus => ""
  | minus => "-"

end Sign

/-- Terms one after the other, each behind its sign. -/
def writtenSum (sp : Spacing) : List (Sign × String) → String
  | [] => ""
  | (s, t) :: more =>
    s.leadText ++ t ++ String.join (more.map fun term => sp.operator term.1.text ++ term.2)

namespace Expr
variable {sp : Spacing} {s : Sign} {e total : Expr} {terms : List (Sign × Expr)}

theorem enclose_of_le {least : Nat} {text : String} (h : least ≤ e.level) :
    e.enclose least text = text :=
  if_neg (Nat.not_lt.2 h)

theorem write_lead (h : 1 ≤ e.level) : (s.lead e).write sp = s.leadText ++ e.write sp := by
  cases s with
  | plus => exact String.empty_append.symm
  | minus =>
    show "-" ++ e.enclose 1 (e.write sp) = _
    rw [enclose_of_le h, Sign.leadText]

theorem write_extend (h : 1 ≤ e.level) :
    (s.extend total e).write sp = total.write sp ++ (sp.operator s.text ++ e.write sp) := by
  have hwrite : (s.extend total e).write sp =
      total.write sp ++ sp.operator s.text ++ e.enclose 1 (e.write sp) := by
    cases s <;> rfl
  rw [hwrite, enclose_of_le h, String.append_assoc]

/-- Each further term stands behind what is written so far. -/
theorem write_foldl (h : ∀ t ∈ terms, 1 ≤ t.2.level) :
    (terms.foldl (fun total term => term.1.extend total term.2) total).write sp =
      total.write sp ++ String.join (terms.map fun t => sp.operator t.1.text ++ t.2.write sp) := by
  induction terms generalizing total with
  | nil => exact String.append_empty.symm
  | cons t terms ih =>
    obtain ⟨ht, hterms⟩ := List.forall_mem_cons.1 h
    rw [List.foldl_cons, ih hterms, write_extend ht, List.map_cons, String.join_cons,
      String.append_assoc]

/-- **A signed sum is written term by term.** -/
theorem write_signedSum (h : ∀ t ∈ terms, 1 ≤ t.2.level) :
    (signedSum terms).write sp = writtenSum sp (terms.map fun t => (t.1, t.2.write sp)) := by
  cases terms with
  | nil => rfl
  | cons t terms =>
    obtain ⟨ht, hterms⟩ := List.forall_mem_cons.1 h
    rw [signedSum, write_foldl hterms, write_lead ht, List.map_cons, writtenSum, List.map_map]
    rfl

theorem text_orZero : (orZero e).text = "COALESCE(" ++ e.text ++ ", 0)" := by
  have hclose : ", 0)" = ", " ++ "0)" := rfl
  rw [hclose, ← String.append_assoc]
  rfl

/-- A function of `t`, missing values of which count as zero. -/
theorem coalesced {f t : String} :
    "COALESCE(" ++ (f ++ t ++ ")") ++ "," ++ "0)" = "COALESCE(" ++ f ++ t ++ "),0)" := by
  have hclose : "),0)" = ")" ++ ("," ++ "0)") := rfl
  rw [hclose]
  simp only [String.append_assoc]

theorem write_orZero_max :
    (orZero (max e)).write .tight = "COALESCE(MAX(" ++ e.write .tight ++ "),0)" := by
  have hopen : "COALESCE(MAX(" = "COALESCE(" ++ "MAX(" := rfl
  rw [hopen]
  exact coalesced

theorem write_orZero_min :
    (orZero (min e)).write .tight = "COALESCE(MIN(" ++ e.write .tight ++ "),0)" := by
  have hopen : "COALESCE(MIN(" = "COALESCE(" ++ "MIN(" := rfl
  rw [hopen]
  exact coalesced

/-- The terms of spans bind tighter than a sum. -/
theorem level_of_mem_spanTerms {u : Sign × Expr}
    (h : u ∈ terms.flatMap fun t => spanTerms t.1 t.2) : 1 ≤ u.2.level := by
  obtain ⟨t, -, hu⟩ := List.mem_flatMap.1 h
  obtain rfl | rfl := by simpa [spanTerms] using hu
  all_goals exact Nat.le_succ 1

/-- **A signed sum of spans is written term by term**, the largest value of each term before its
    smallest one. -/
theorem text_spanSum :
    (spanSum terms).text = writtenSum .tight (terms.flatMap fun t =>
      [(t.1, "COALESCE(MAX(" ++ t.2.write .tight ++ "),0)"),
        (t.1.opposite, "COALESCE(MIN(" ++ t.2.write .tight ++ "),0)")]) := by
  show (signedSum _).write .tight = _
  rw [write_signedSum fun _ hu => level_of_mem_spanTerms hu, List.map_flatMap]
  refine congrArg (writtenSum .tight) (List.flatMap_congr fun t _ => ?_)
  rw [spanTerms, List.map_cons, List.map_singleton, write_orZero_max, write_orZero_min]

end Expr

end EnergyQuery.Sql
