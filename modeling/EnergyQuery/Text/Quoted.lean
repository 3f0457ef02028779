/-
  Quoted text: a text between two equal delimiters, with every delimiter inside
  it written twice.  The written form can be embedded in any statement, since
  no single delimiter occurs inside it.

  * `double` is the doubling on characters, `quoted` the delimited text;
  * `quoteName` and `quoteLiteral` are the two instances that SQL uses, for
    identifiers and for string literals.
-/

namespace EnergyQuery.Text

/-- Every occurrence of the delimiter `q` twice, all else once. -/
def double (q : Char) : List Char → List Char
  | [] => []
  | c :: cs => if c = q then q :: q :: double q cs else c :: double q cs

/-- `s` between two delimiters `q`, with the delimiters inside it doubled. -/
def quoted (q : Char) (s : String) : String :=
  String.ofList (q :: (double q s.toList ++ [q]))

/-- An SQL identifier: delimited by double quotes. -/
def quoteName (s : String) : String :=
  quoted '"' s

/-- An SQL string literal: delimited by single quotes, a backslash being an
    ordinary character. -/
def quoteLiteral (s : String) : String :=
  quoted '\x27' s

theorem double_eq_self {q : Char} {s : List Char} (h : q ∉ s) : double q s = s := by
  induction s with
  | nil => rfl
  | cons c s ih =>
    have hc : c ≠ q := fun e => h (by simp [e])
    simp [double, hc, ih fun m => h (List.mem_cons_of_mem _ m)]

theorem mem_double_iff {q c : Char} {s : List Char} : c ∈ double q s ↔ c ∈ s := by
  induction s with
  | nil => rfl
  | cons d s ih => by_cases hd : d = q <;> simp [double, hd, ih]

end EnergyQuery.Text
