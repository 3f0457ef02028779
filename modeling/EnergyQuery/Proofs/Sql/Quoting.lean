/-
  Reading a quoted text.

  The text ends at a delimiter that stands alone; two of them next to each other
  stand for one, and a backslash is a character like any other.

  * `readQuoted` reads from behind the opening delimiter, `scanQuoted` from the
    delimiter on;
  * `readQuoted_double_append`: in a text that is written with doubled delimiters
    reading never stops, whatever follows it;
  * `readQuoted_eq_some_iff`: reading accepts what is written, and nothing else;
  * `quoting_inverted`: so quoting is undone in any context.
-/
import EnergyQuery.Text.Quoted
import Mathlib.Data.List.Infix
import Mathlib.Logic.Function.Basic

namespace EnergyQuery.Sql

/-! ## Delimiters -/

/-- The two kinds of quoted text. -/
inductive Delimiter where
  | name
  | literal
  deriving DecidableEq, Repr

namespace Delimiter

/-- The delimiter of a quoted text. -/
def mark : Delimiter → Char
  | name => '"'
  | literal => '\x27'

/-- The text as a quoted text of this kind. -/
def quote : Delimiter → String → String
  | name => Text.quoteName
  | literal => Text.quoteLiteral

theorem quote_eq (d : Delimiter) (s : String) : d.quote s = Text.quoted d.mark s := by
  cases d <;> rfl

/-- The kind of quoted text that a character opens. -/
def ofChar? (c : Char) : Option Delimiter :=
  if c = '"' then some name else if c = '\x27' then some literal else none

theorem ofChar?_eq_some_iff {c : Char} {d : Delimiter} : ofChar? c = some d ↔ c = d.mark := by
  unfold ofChar?
  cases d <;> split_ifs <;> simp_all [mark]

theorem ofChar?_mark (d : Delimiter) : ofChar? d.mark = some d :=
  ofChar?_eq_some_iff.2 rfl

end Delimiter

/-! ## From the opening delimiter on -/

/-- The content of a quoted text whose opening delimiter has been read, and the text after its
    closing one. -/
def readQuoted (q : Char) : List Char → Option (List Char × List Char)
  | [] => none
  | c :: s =>
    if c = q then
      match s with
      | [] => some ([], [])
      | d :: t => if d = q then (readQuoted q t).map fun p => (q :: p.1, p.2) else some ([], d :: t)
    else (readQuoted q s).map fun p => (c :: p.1, p.2)

section
variable {q c : Char} {s t rest : List Char} {p : List Char × List Char}

theorem readQuoted_cons_of_ne (h : c ≠ q) :
    readQuoted q (c :: s) = (readQuoted q s).map fun p => (c :: p.1, p.2) := by
  cases s <;> simp [readQuoted, h]

theorem readQuoted_mark_mark :
    readQuoted q (q :: q :: s) = (readQuoted q s).map fun p => (q :: p.1, p.2) := by
  simp [readQuoted]

/-- A delimiter that stands alone ends the text. -/
theorem readQuoted_mark (h : s.head? ≠ some q) : readQuoted q (q :: s) = some ([], s) := by
  cases s with
  | nil => simp [readQuoted]
  | cons c s =>
    have hc : c ≠ q := by simpa using h
    simp [readQuoted, hc]

/-- **Reading goes through what is written**, whatever follows it. -/
theorem readQuoted_double_append :
    readQuoted q (Text.double q s ++ t) = (readQuoted q t).map fun p => (s ++ p.1, p.2) := by
  induction s with
  | nil => simp [Text.double]
  | cons c s ih =>
    by_cases hc : c = q
    · subst hc
      rw [Text.double, if_pos rfl, List.cons_append, List.cons_append, readQuoted_mark_mark, ih,
        Option.map_map]
      rfl
    · rw [Text.double, if_neg hc, List.cons_append, readQuoted_cons_of_ne hc, ih, Option.map_map]
      rfl

/-- Reading undoes the doubling of delimiters. -/
theorem readQuoted_double (h : rest.head? ≠ some q) :
    readQuoted q (Text.double q s ++ q :: rest) = some (s, rest) := by
  rw [readQuoted_double_append, readQuoted_mark h, Option.map_some, List.append_nil]

/-- What can be read has been written. -/
theorem eq_of_readQuoted : ∀ {s : List Char} {p : List Char × List Char},
    readQuoted q s = some p → s = Text.double q p.1 ++ q :: p.2 ∧ p.2.head? ≠ some q
  | [], _, h => by simp [readQuoted] at h
  | c :: s, p, h => by
    by_cases hc : c = q
    · obtain rfl := hc.symm
      by_cases hs : s.head? = some q
      · obtain ⟨t, rfl⟩ := List.head?_eq_some_iff.1 hs
        rw [readQuoted_mark_mark, Option.map_eq_some_iff] at h
        obtain ⟨p', hp', rfl⟩ := h
        obtain ⟨ht, hrest⟩ := eq_of_readQuoted hp'
        exact ⟨by simp [Text.double, ← ht], hrest⟩
      · rw [readQuoted_mark hs] at h
        obtain rfl := Option.some.inj h
        exact ⟨rfl, hs⟩
    · rw [readQuoted_cons_of_ne hc, Option.map_eq_some_iff] at h
      obtain ⟨p', hp', rfl⟩ := h
      obtain ⟨hs, hrest⟩ := eq_of_readQuoted hp'
      exact ⟨by simp [Text.double, hc, ← hs], hrest⟩

/-- **Reading accepts what is written**, up to a delimiter that stands alone. -/
theorem readQuoted_eq_some_iff :
    readQuoted q t = some (s, rest) ↔ t = Text.double q s ++ q :: rest ∧ rest.head? ≠ some q := by
  refine ⟨eq_of_readQuoted, ?_⟩
  rintro ⟨rfl, h⟩
  exact readQuoted_double h

theorem length_readQuoted_lt (h : readQuoted q s = some p) : p.2.length < s.length := by
  rw [(eq_of_readQuoted h).1, List.length_append, List.length_cons]
  omega

/-- What is read of a quoted text, and what is left, stands in the text. -/
theorem mem_of_readQuoted (h : readQuoted q s = some p) (hc : c ∈ p.1 ++ p.2) : c ∈ s := by
  rw [(eq_of_readQuoted h).1]
  rcases List.mem_append.1 hc with hc | hc
  · exact List.mem_append_left _ (Text.mem_double_iff.2 hc)
  · exact List.mem_append_right _ (List.mem_cons_of_mem _ hc)

end

/-! ## Quoted texts -/

/-- The content of the quoted text that a text begins with, and the text after it. -/
def scanQuoted (q : Char) (x : String) : Option (String × String) :=
  match x.toList with
  | [] => none
  | c :: s =>
    if c = q then (readQuoted q s).map fun p => (String.ofList p.1, String.ofList p.2) else none

section
variable {q : Char} {s r t u x : String}

/-- **A quoted text is scanned as what it quotes**, and nothing but a quoted text can be scanned. -/
theorem scanQuoted_eq_some_iff : scanQuoted q x = some (s, r) ↔
    x = Text.quoted q s ++ r ∧ r.toList.head? ≠ some q := by
  have htext : x = Text.quoted q s ++ r ↔
      x.toList = q :: (Text.double q s.toList ++ q :: r.toList) := by
    rw [← String.toList_inj, String.toList_append, Text.quoted, String.toList_ofList]
    simp
  rw [htext, scanQuoted]
  cases x.toList with
  | nil => simp
  | cons c y =>
    by_cases hc : c = q
    · subst hc
      have hread : readQuoted c y = some (s.toList, r.toList) ↔
          y = Text.double c s.toList ++ c :: r.toList ∧ r.toList.head? ≠ some c :=
        readQuoted_eq_some_iff
      rw [List.cons.injEq, and_iff_right rfl, ← hread]
      simp only [if_true, Option.map_eq_some_iff]
      constructor
      · rintro ⟨p, hp, heq⟩
        obtain ⟨rfl, rfl⟩ := Prod.mk.inj heq
        rw [hp, String.toList_ofList, String.toList_ofList]
      · intro hp
        exact ⟨_, hp, by rw [String.ofList_toList, String.ofList_toList]⟩
    · simp [hc]

/-- **A quoted text does not end early**: whatever is scanned begins with all that is quoted, and
    what is left lies behind it. -/
theorem not_early_of_scanQuoted (h : scanQuoted q (Text.quoted q s ++ r) = some (t, u)) :
    s.toList <+: t.toList ∧ u.toList <:+ r.toList := by
  have hread : readQuoted q (Text.double q s.toList ++ q :: r.toList) =
      some (t.toList, u.toList) := by
    refine readQuoted_eq_some_iff.2 ?_
    obtain ⟨htext, hu⟩ := scanQuoted_eq_some_iff.1 h
    rw [← String.toList_inj, String.toList_append, String.toList_append, Text.quoted, Text.quoted,
      String.toList_ofList, String.toList_ofList] at htext
    exact ⟨by simpa using htext, hu⟩
  rw [readQuoted_double_append, Option.map_eq_some_iff] at hread
  obtain ⟨⟨v, w⟩, hp, heq⟩ := hread
  obtain ⟨htext, hrest⟩ := Prod.mk.inj heq
  refine ⟨⟨v, htext⟩, ?_⟩
  -- It is left behind a delimiter, the first of which is the closing one.
  have hsuffix : w <:+ q :: r.toList := ⟨Text.double q v ++ [q], by simp [(eq_of_readQuoted hp).1]⟩
  rcases List.suffix_cons_iff.1 hsuffix with rfl | hsuffix
  · exact absurd (length_readQuoted_lt hp) (lt_irrefl _)
  · exact hrest ▸ hsuffix

theorem quoted_injective (q : Char) : Function.Injective (Text.quoted q) := by
  intro s t h
  have hs : scanQuoted q (Text.quoted q s ++ "") = some (s, "") :=
    scanQuoted_eq_some_iff.2 ⟨rfl, by simp⟩
  have ht : scanQuoted q (Text.quoted q t ++ "") = some (t, "") :=
    scanQuoted_eq_some_iff.2 ⟨rfl, by simp⟩
  rw [h, ht] at hs
  exact (Prod.mk.inj (Option.some.inj hs)).1.symm

end

/-- **Quoting is undone by reading, whatever follows.**  Of a quoted text, identifier or literal,
    that no further delimiter follows, exactly this text is read, and what follows is left; only
    quoted texts are read at all.  So different texts are quoted differently, and even a delimiter
    behind a quoted text cannot make it end before its own last one. -/
theorem quoting_inverted (d : Delimiter) :
    (∀ s r : String, r.toList.head? ≠ some d.mark →
      scanQuoted d.mark (d.quote s ++ r) = some (s, r)) ∧
    (∀ x s r : String, scanQuoted d.mark x = some (s, r) →
      x = d.quote s ++ r ∧ r.toList.head? ≠ some d.mark) ∧
    Function.Injective d.quote ∧
    ∀ s r t u : String, scanQuoted d.mark (d.quote s ++ r) = some (t, u) →
      s.toList <+: t.toList ∧ u.toList <:+ r.toList := by
  have hquote : d.quote = Text.quoted d.mark := funext d.quote_eq
  rw [hquote]
  exact ⟨fun s r h => scanQuoted_eq_some_iff.2 ⟨rfl, h⟩, fun x s r => scanQuoted_eq_some_iff.1,
    quoted_injective d.mark, fun s r t u => not_early_of_scanQuoted⟩

/-- An identifier with delimiters at both ends, a literal with one inside, and an identifier that a
    further delimiter follows. -/
theorem quoting_inverted_marks :
    (", x".toList.head? ≠ some '"' ∧
      scanQuoted '"' (Text.quoteName "\"a\"\"" ++ ", x") = some ("\"a\"\"", ", x")) ∧
    (scanQuoted '\x27' "'it''s' AS x" = some ("it's", " AS x") ∧
      "'it''s' AS x" = Text.quoteLiteral "it's" ++ " AS x") ∧
    scanQuoted '"' (Text.quoteName "a" ++ "\"b\" c") = some ("a\"b", " c") ∧
      "a".toList <+: "a\"b".toList ∧ " c".toList <:+ "\"b\" c".toList := by
  have hcomma : ", x".toList.head? ≠ some '"' := by decide
  have hliteral : scanQuoted '\x27' "'it''s' AS x" = some ("it's", " AS x") := by
    simp [scanQuoted, readQuoted]
  have hlong : scanQuoted '"' (Text.quoteName "a" ++ "\"b\" c") = some ("a\"b", " c") := by
    simp [scanQuoted, Text.quoteName, Text.quoted, Text.double, readQuoted]
  obtain ⟨hscan, -, -, hlate⟩ := quoting_inverted .name
  obtain ⟨-, hwritten, -, -⟩ := quoting_inverted .literal
  exact ⟨⟨hcomma, hscan "\"a\"\"" ", x" hcomma⟩, ⟨hliteral, (hwritten _ _ _ hliteral).1⟩, hlong,
    hlate "a" "\"b\" c" "a\"b" " c" hlong⟩

end EnergyQuery.Sql
