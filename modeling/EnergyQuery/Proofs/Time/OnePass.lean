/-
  Replacing placeholders in one pass.

  A text is expanded kind by kind: the filters first, then the starts of the
  range, then its ends.  A later pass so rescans what an earlier one wrote.

  * `Form` is a placeholder as it may be written, `Form.value` what stands for
    it; `Free` is a text that no placeholder occurs in;
  * `OnePass`: at each place from left to right, the placeholder that begins
    there is replaced, or the character is copied if none does;
  * `Replaces.prefix_of_prefix_replaceAll`: no replacement makes a placeholder.
    It would have to hold the delimiter of a literal, or to close before one;
  * `expansion_in_one_pass`: expanding a text is that pass, it leaves no
    placeholder, and so expanding once more changes nothing.
-/
import EnergyQuery.Proofs.Time.Expansion
import Mathlib.Data.List.TakeWhile

namespace EnergyQuery

namespace Placeholder

/-! ## Placeholders as they are written -/

/-- Blanks, as they may stand inside the parentheses. -/
structure Blanks where
  chars : List Char
  blank : ∀ c ∈ chars, Text.isBlank c = true

/-- The name of a column. -/
structure Column where
  first : Char
  more : List Char
  starts : startsColumn first = true
  continues : ∀ c ∈ more, continuesColumn c = true

/-- The characters of the name. -/
def Column.chars (column : Column) : List Char :=
  column.first :: column.more

/-- A placeholder as it may be written. -/
inductive Form where
  /-- `$__timeFilter(column)` -/
  | filter (before : Blanks) (column : Column) (after : Blanks)
  /-- `$__timeFrom()` -/
  | start (inside : Blanks)
  /-- `$__timeTo()` -/
  | stop (inside : Blanks)

namespace Form

/-- What is written between the dollar sign and the closing parenthesis. -/
def body : Form → List Char
  | filter before column after =>
    "__timeFilter(".toList ++ (before.chars ++ (column.chars ++ after.chars))
  | start inside => "__timeFrom(".toList ++ inside.chars
  | stop inside => "__timeTo(".toList ++ inside.chars

theorem body_filter (b : Blanks) (column : Column) (b' : Blanks) : (filter b column b').body =
    "__timeFilter(".toList ++ (b.chars ++ (column.chars ++ b'.chars)) := rfl

theorem body_start (b : Blanks) : (start b).body = "__timeFrom(".toList ++ b.chars := rfl

theorem body_stop (b : Blanks) : (stop b).body = "__timeTo(".toList ++ b.chars := rfl

/-- The characters of a placeholder. -/
def chars (p : Form) : List Char :=
  '$' :: (p.body ++ [')'])

/-- What stands for a placeholder, given the literals of the range. -/
def value (first last : List Char) : Form → List Char
  | filter _ column _ => between first last column.chars
  | start _ => first
  | stop _ => last

end Form

/-- No placeholder begins the text. -/
def NoneAt (s : List Char) : Prop :=
  ∀ p : Form, ¬p.chars <+: s

/-- No placeholder occurs in the text. -/
def Free (s : List Char) : Prop :=
  ∀ p : Form, ¬p.chars <:+: s

/-- One pass from left to right over the first text gives the second. -/
inductive OnePass (first last : List Char) : List Char → List Char → Prop
  | nil : OnePass first last [] []
  | copy {c s t} : NoneAt (c :: s) → OnePass first last s t → OnePass first last (c :: s) (c :: t)
  | replace {s t} (p : Form) :
      OnePass first last s t → OnePass first last (p.chars ++ s) (p.value first last ++ t)

/-! ## Characters -/

section
variable {c : Char}

theorem continuesColumn_of_startsColumn (h : startsColumn c = true) : continuesColumn c = true := by
  simp only [startsColumn, continuesColumn, Char.isAlphanum, Bool.or_eq_true] at h ⊢
  tauto

theorem toNat_of_isAlpha (h : c.isAlpha = true) : 65 ≤ c.toNat ∧ c.toNat ≤ 122 := by
  rcases Bool.or_eq_true_iff.1 h with hupper | hlower
  · have hrange : 65 ≤ c.toNat ∧ c.toNat ≤ 90 := of_decide_eq_true hupper
    omega
  · obtain ⟨hlow, hhigh⟩ := Bool.and_eq_true_iff.1 hlower
    have hlow : 97 ≤ c.toNat := of_decide_eq_true hlow
    have hhigh : c.toNat ≤ 122 := of_decide_eq_true hhigh
    omega

/-- No character of a column is a blank. -/
theorem not_isBlank_of_continuesColumn (h : continuesColumn c = true) : Text.isBlank c = false := by
  have hrange : 0x20 < c.toNat ∧ c.toNat < 0x85 := by
    simp only [continuesColumn, Char.isAlphanum, Bool.or_eq_true, beq_iff_eq] at h
    rcases h with ((h | h) | rfl) | rfl
    · obtain ⟨hlow, hhigh⟩ := toNat_of_isAlpha h
      omega
    · obtain ⟨hlow, hhigh⟩ := Bool.and_eq_true_iff.1 h
      have hlow : 48 ≤ c.toNat := of_decide_eq_true hlow
      have hhigh : c.toNat ≤ 57 := of_decide_eq_true hhigh
      omega
    · decide
    · decide
  exact Text.not_isBlank_of_lt hrange.1 hrange.2

/-- A column holds no character that does not continue one. -/
theorem Column.not_mem (column : Column) (h : continuesColumn c = false) : c ∉ column.chars := by
  intro hc
  have hcontinues : continuesColumn c = true := by
    rcases List.mem_cons.1 hc with rfl | hc
    · exact continuesColumn_of_startsColumn column.starts
    · exact column.continues c hc
  simp [h] at hcontinues

theorem Blanks.not_mem (b : Blanks) (h : Text.isBlank c = false) : c ∉ b.chars := by
  intro hc
  have hblank := b.blank c hc
  simp [h] at hblank

/-- The words of a placeholder hold an opening parenthesis beside what a column may hold. -/
theorem not_mem_of_all {k : List Char} (hk : k.all (fun d => continuesColumn d || d == '(') = true)
    (hc : continuesColumn c = false) (hopen : c ≠ '(') : c ∉ k := by
  intro hmem
  have hword := List.all_eq_true.1 hk c hmem
  simp [hc, hopen] at hword

/-- Within a placeholder stand no dollar sign, no delimiter of a literal and no closing
    parenthesis. -/
theorem Form.not_mem_body (p : Form) (h : c ∈ ['$', '\x27', ')']) : c ∉ p.body := by
  have hkinds : Text.isBlank c = false ∧ continuesColumn c = false ∧ c ≠ '(' := by
    simp only [List.mem_cons, List.not_mem_nil, or_false] at h
    rcases h with rfl | rfl | rfl
    all_goals decide
  obtain ⟨hblank, hcolumn, hopen⟩ := hkinds
  have hfilter : c ∉ "__timeFilter(".toList := not_mem_of_all rfl hcolumn hopen
  have hstart : c ∉ "__timeFrom(".toList := not_mem_of_all rfl hcolumn hopen
  have hstop : c ∉ "__timeTo(".toList := not_mem_of_all rfl hcolumn hopen
  cases p with
  | filter b column b' =>
    simp only [body_filter, List.mem_append, not_or]
    exact ⟨hfilter, b.not_mem hblank, column.not_mem hcolumn, b'.not_mem hblank⟩
  | start b =>
    simp only [body_start, List.mem_append, not_or]
    exact ⟨hstart, b.not_mem hblank⟩
  | stop b =>
    simp only [body_stop, List.mem_append, not_or]
    exact ⟨hstop, b.not_mem hblank⟩

end

/-! ## Reading -/

section
variable {k s t column : List Char} {c : Char}

theorem afterStart?_eq_some_iff : afterStart? k s = some t ↔ s = k ++ t := by
  constructor
  · intro h
    induction k generalizing s with
    | nil => exact Option.some.inj h
    | cons c k ih =>
      cases s with
      | nil => simp [afterStart?] at h
      | cons d s =>
        rw [afterStart?] at h
        split at h
        · next hcd => rw [hcd, ih h, List.cons_append]
        · simp at h
  · rintro rfl
    induction k with
    | nil => rfl
    | cons c k ih => rw [List.cons_append, afterStart?, if_pos rfl, ih]

theorem exists_blanks (s : List Char) : ∃ b : Blanks, s = b.chars ++ s.dropWhile Text.isBlank :=
  ⟨⟨s.takeWhile Text.isBlank, fun _ hc => List.mem_takeWhile_imp hc⟩,
    List.takeWhile_append_dropWhile.symm⟩

theorem dropWhile_blanks (b : Blanks) (hc : Text.isBlank c = false) :
    (b.chars ++ c :: t).dropWhile Text.isBlank = c :: t := by
  rw [List.dropWhile_append_of_pos b.blank, List.dropWhile_cons_of_neg (by simp [hc])]

theorem afterClose?_eq_some_iff :
    afterClose? s = some t ↔ ∃ b : Blanks, s = b.chars ++ ')' :: t := by
  rw [afterClose?, afterStart?_eq_some_iff]
  constructor
  · intro h
    obtain ⟨b, hb⟩ := exists_blanks s
    rw [h] at hb
    exact ⟨b, hb⟩
  · rintro ⟨b, rfl⟩
    exact dropWhile_blanks b (by decide)

/-- A placeholder without a column: its start, blanks and a closing parenthesis. -/
theorem closed_eq_some_iff :
    (afterStart? k s >>= afterClose?) = some t ↔ ∃ b : Blanks, s = k ++ (b.chars ++ ')' :: t) := by
  simp only [bind, Option.bind_eq_some_iff, afterStart?_eq_some_iff, afterClose?_eq_some_iff]
  constructor
  · rintro ⟨_, rfl, b, rfl⟩
    exact ⟨b, rfl⟩
  · rintro ⟨b, rfl⟩
    exact ⟨_, rfl, b, rfl⟩

theorem Form.chars_append (p : Form) : p.chars ++ t = '$' :: (p.body ++ ')' :: t) := by
  simp [chars]

theorem from?_eq_some_iff : from? s = some t ↔ ∃ b, s = (Form.start b).chars ++ t := by
  have hkey : "$__timeFrom(".toList = '$' :: "__timeFrom(".toList := rfl
  rw [from?, hkey, closed_eq_some_iff]
  simp only [Form.chars_append, Form.body_start, List.append_assoc, List.cons_append]

theorem to?_eq_some_iff : to? s = some t ↔ ∃ b, s = (Form.stop b).chars ++ t := by
  have hkey : "$__timeTo(".toList = '$' :: "__timeTo(".toList := rfl
  rw [to?, hkey, closed_eq_some_iff]
  simp only [Form.chars_append, Form.body_stop, List.append_assoc, List.cons_append]

/-- A column ends where blanks or a closing parenthesis follow. -/
theorem exists_not_continuesColumn (b : Blanks) (t : List Char) :
    ∃ d s, b.chars ++ ')' :: t = d :: s ∧ continuesColumn d = false := by
  obtain ⟨s, hs⟩ := b
  cases s with
  | nil => exact ⟨')', t, rfl, by decide⟩
  | cons d s =>
    refine ⟨d, s ++ ')' :: t, rfl, ?_⟩
    by_contra hd
    have hblank := not_isBlank_of_continuesColumn (by simpa using hd)
    simp [hs d (by simp)] at hblank

theorem takeWhile_column (column : Column) {d : Char} (hd : continuesColumn d = false) :
    (column.more ++ d :: t).takeWhile continuesColumn = column.more := by
  rw [List.takeWhile_append_of_pos column.continues, List.takeWhile_cons_of_neg (by simp [hd]),
    List.append_nil]

theorem dropWhile_column (column : Column) {d : Char} (hd : continuesColumn d = false) :
    (column.more ++ d :: t).dropWhile continuesColumn = d :: t := by
  rw [List.dropWhile_append_of_pos column.continues, List.dropWhile_cons_of_neg (by simp [hd])]

theorem filter?_eq_some_iff :
    filter? s = some (column, t) ↔
      ∃ b c b', column = c.chars ∧ s = (Form.filter b c b').chars ++ t := by
  have hkey : "$__timeFilter(".toList = '$' :: "__timeFilter(".toList := rfl
  rw [filter?, hkey]
  simp only [bind, Option.bind_eq_some_iff, afterStart?_eq_some_iff, Form.chars_append,
    Form.body_filter, List.append_assoc]
  constructor
  · rintro ⟨s, rfl, h⟩
    obtain ⟨b, hb⟩ := exists_blanks s
    split at h
    · simp at h
    · next c cs hs =>
      split at h
      · next hc =>
        simp only [Option.bind_eq_some_iff, afterClose?_eq_some_iff] at h
        obtain ⟨_, ⟨b', hb'⟩, h⟩ := h
        obtain ⟨rfl, rfl⟩ := Prod.mk.inj (Option.some.inj h)
        have hcolumn : c :: cs.takeWhile continuesColumn ++ cs.dropWhile continuesColumn = c :: cs :=
          congrArg (c :: ·) List.takeWhile_append_dropWhile
        refine ⟨b, ⟨c, cs.takeWhile continuesColumn, hc, fun d hd => List.mem_takeWhile_imp hd⟩, b',
          rfl, ?_⟩
        rw [← hb', Column.chars, hcolumn, ← hs, ← hb]
        rfl
      · simp at h
  · rintro ⟨b, c, b', rfl, rfl⟩
    obtain ⟨d, s, hd, hdc⟩ := exists_not_continuesColumn b' t
    have hclose : afterClose? (d :: s) = some t := afterClose?_eq_some_iff.2 ⟨b', hd.symm⟩
    have hblank := not_isBlank_of_continuesColumn (continuesColumn_of_startsColumn c.starts)
    refine ⟨_, rfl, ?_⟩
    rw [hd, Column.chars, List.cons_append, dropWhile_blanks b hblank]
    simp only [c.starts, if_true, takeWhile_column c hdc, dropWhile_column c hdc, hclose]
    rfl

end

/-! ## Replacing makes no placeholder -/

/-- A literal, as it is put in for a bound of the range. -/
structure IsLiteral (s : List Char) : Prop where
  delimited : ∃ t, s = '\x27' :: t
  no_dollar : '$' ∉ s

/-- What `m` replaces is a placeholder, and what it puts in holds the delimiter of a literal, with
    no closing parenthesis before it. -/
structure Replaces (m : List Char → Option (List Char × List Char)) : Prop where
  placeholder : ∀ {s r rest}, m s = some (r, rest) → ∃ p : Form, p.chars <+: s
  delimited : ∀ {s r rest}, m s = some (r, rest) → ∃ u v, r = u ++ '\x27' :: v ∧ ')' ∉ u

section
variable {m : List Char → Option (List Char × List Char)} {c : Char} {k s t u v : List Char}

/-- What closes and holds no delimiter does not begin a text that holds one before it closes. -/
theorem not_prefix_of_delimited (hk : '\x27' ∉ k) (hu : ')' ∉ u) :
    ¬k ++ [')'] <+: u ++ '\x27' :: v := by
  induction u generalizing k with
  | nil =>
    intro h
    cases k with
    | nil => exact absurd (List.cons_prefix_cons.1 h).1 (by decide)
    | cons d k => exact hk (List.mem_cons.2 (.inl (List.cons_prefix_cons.1 h).1.symm))
  | cons x u ih =>
    intro h
    cases k with
    | nil => exact hu (List.mem_cons.2 (.inl (List.cons_prefix_cons.1 h).1))
    | cons d k =>
      rw [List.mem_cons, not_or] at hk hu
      exact ih hk.2 hu.2 (List.cons_prefix_cons.1 h).2

/-- What begins a text and closes keeps beginning it, if this is so after the first character. -/
theorem closes_cons (hmore : ∀ {k}, '\x27' ∉ k → k ++ [')'] <+: t → k ++ [')'] <+: s)
    (hk : '\x27' ∉ k) (h : k ++ [')'] <+: c :: t) : k ++ [')'] <+: c :: s := by
  cases k with
  | nil => exact List.cons_prefix_cons.2 ⟨(List.cons_prefix_cons.1 h).1, List.nil_prefix⟩
  | cons d k =>
    obtain ⟨hd, hk'⟩ := List.cons_prefix_cons.1 h
    exact List.cons_prefix_cons.2 ⟨hd, hmore (fun hmem => hk (List.mem_cons_of_mem d hmem)) hk'⟩

/-- **No replacement makes a placeholder**: what begins the result and closes, without a delimiter,
    was there before. -/
theorem Replaces.prefix_of_prefix_replaceAll (hm : Replaces m) (hk : '\x27' ∉ k)
    (h : k ++ [')'] <+: replaceAll m s) : k ++ [')'] <+: s := by
  induction s using replaceAll.induct m generalizing k with
  | case1 => simp [replaceAll] at h
  | case2 c s hnone ih =>
    rw [replaceAll, hnone] at h
    exact closes_cons ih hk h
  | case3 c s r rest hsome hle ih =>
    rw [replaceAll, hsome] at h
    obtain ⟨u, v, rfl, hu⟩ := hm.delimited hsome
    simp only [hle, if_true, List.append_assoc, List.cons_append] at h
    exact absurd h (not_prefix_of_delimited hk hu)
  | case4 c s r rest hsome hle ih =>
    rw [replaceAll, hsome] at h
    simp only [hle, if_false] at h
    exact closes_cons ih hk h

/-- Where no placeholder begins, the character is copied, and none begins there afterwards. -/
theorem Replaces.copies (hm : Replaces m) (h : NoneAt (c :: s)) :
    replaceAll m (c :: s) = c :: replaceAll m s ∧ NoneAt (c :: replaceAll m s) := by
  have hnone : m (c :: s) = none := by
    rw [Option.eq_none_iff_forall_ne_some]
    rintro ⟨r, rest⟩ hsome
    obtain ⟨p, hp⟩ := hm.placeholder hsome
    exact h p hp
  refine ⟨by rw [replaceAll, hnone], fun p hp => h p ?_⟩
  obtain ⟨hc, hbody⟩ := List.cons_prefix_cons.1 hp
  exact List.cons_prefix_cons.2
    ⟨hc, hm.prefix_of_prefix_replaceAll (p.not_mem_body (by decide)) hbody⟩

end

section
variable {first last s t : List Char} {c : Char}

theorem replaces_filterValue (hfirst : IsLiteral first) : Replaces (filterValue? first last) := by
  have hread {s r rest} (h : filterValue? first last s = some (r, rest)) :
      ∃ b c b', r = between first last c.chars ∧ s = (Form.filter b c b').chars ++ rest := by
    rw [filterValue?, Option.map_eq_some_iff] at h
    obtain ⟨⟨column, rest⟩, hfilter, h⟩ := h
    obtain ⟨rfl, rfl⟩ := Prod.mk.inj h
    obtain ⟨b, c, b', rfl, hs⟩ := filter?_eq_some_iff.1 hfilter
    exact ⟨b, c, b', rfl, hs⟩
  constructor
  case placeholder =>
    intro s r rest h
    obtain ⟨b, c, b', -, rfl⟩ := hread h
    exact ⟨.filter b c b', List.prefix_append _ _⟩
  case delimited =>
    intro s r rest h
    obtain ⟨b, c, b', rfl, -⟩ := hread h
    obtain ⟨t, rfl⟩ := hfirst.delimited
    refine ⟨c.chars ++ " BETWEEN ".toList, t ++ " AND ".toList ++ last, ?_, ?_⟩
    · simp only [between, List.append_assoc, List.cons_append]
    · rw [List.mem_append, not_or]
      exact ⟨c.not_mem (by decide), by decide⟩

theorem replaces_fromValue (hfirst : IsLiteral first) : Replaces (fromValue? first) := by
  constructor
  case placeholder =>
    intro s r rest h
    rw [fromValue?, Option.map_eq_some_iff] at h
    obtain ⟨t, hfrom, -⟩ := h
    obtain ⟨b, rfl⟩ := from?_eq_some_iff.1 hfrom
    exact ⟨.start b, List.prefix_append _ _⟩
  case delimited =>
    intro s r rest h
    rw [fromValue?, Option.map_eq_some_iff] at h
    obtain ⟨t, -, h⟩ := h
    obtain ⟨rfl, -⟩ := Prod.mk.inj h
    obtain ⟨v, hv⟩ := hfirst.delimited
    exact ⟨[], v, hv, List.not_mem_nil⟩

theorem replaces_toValue (hlast : IsLiteral last) : Replaces (toValue? last) := by
  constructor
  case placeholder =>
    intro s r rest h
    rw [toValue?, Option.map_eq_some_iff] at h
    obtain ⟨t, hto, -⟩ := h
    obtain ⟨b, rfl⟩ := to?_eq_some_iff.1 hto
    exact ⟨.stop b, List.prefix_append _ _⟩
  case delimited =>
    intro s r rest h
    rw [toValue?, Option.map_eq_some_iff] at h
    obtain ⟨t, -, h⟩ := h
    obtain ⟨rfl, -⟩ := Prod.mk.inj h
    obtain ⟨v, hv⟩ := hlast.delimited
    exact ⟨[], v, hv, List.not_mem_nil⟩

/-! ## Expanding in one pass -/

theorem expandList_nil : expandList first last [] = [] := by
  simp only [expandList, replaceAll]

/-- Where no placeholder begins, the character is copied. -/
theorem expandList_copies (hfirst : IsLiteral first) (hlast : IsLiteral last)
    (h : NoneAt (c :: s)) : expandList first last (c :: s) = c :: expandList first last s ∧
      NoneAt (c :: expandList first last s) := by
  have hreplaces : Replaces (filterValue? first last) := replaces_filterValue hfirst
  obtain ⟨hfilter, h₁⟩ := hreplaces.copies h
  obtain ⟨hfrom, h₂⟩ := (replaces_fromValue hfirst).copies h₁
  obtain ⟨hto, h₃⟩ := (replaces_toValue hlast).copies h₂
  exact ⟨by rw [expandList, hfilter, hfrom, hto]; rfl, h₃⟩

theorem Form.no_dollar_value (hfirst : '$' ∉ first) (hlast : '$' ∉ last) (p : Form) :
    '$' ∉ p.value first last := by
  cases p with
  | filter _ column _ =>
    have hcolumn : '$' ∉ column.chars := column.not_mem (by decide)
    have hwords : '$' ∉ " BETWEEN ".toList ∧ '$' ∉ " AND ".toList := by decide
    simp only [value, between, List.mem_append, not_or]
    exact ⟨⟨⟨⟨hcolumn, hwords.1⟩, hfirst⟩, hwords.2⟩, hlast⟩
  | start _ => exact hfirst
  | stop _ => exact hlast

/-- **A placeholder is replaced by what stands for it**, whatever its kind. -/
theorem Form.expands (hfirst : '$' ∉ first) (hlast : '$' ∉ last) (p : Form) :
    Expands first last p.chars (p.value first last) := by
  have hvalue : Unmarked (p.value first last) :=
    unmarked_of_no_dollar (p.no_dollar_value hfirst hlast)
  have hinside : '$' ∉ p.body ++ [')'] := by
    rw [List.mem_append, not_or]
    exact ⟨p.not_mem_body (by decide), by decide⟩
  have hne : p.chars ≠ [] := List.cons_ne_nil _ _
  cases p with
  | filter b column b' =>
    have hmatch (rest : List Char) : filterValue? first last ((filter b column b').chars ++ rest) =
        some (between first last column.chars, rest) := by
      rw [filterValue?, filter?_eq_some_iff.2 ⟨b, column, b', rfl, rfl⟩]
      rfl
    exact ⟨_, _, .of_match hne hmatch, .of_unmarked marked_fromValue hvalue,
      .of_unmarked marked_toValue hvalue⟩
  | start b =>
    have hmatch (rest : List Char) : fromValue? first ((start b).chars ++ rest) =
        some (first, rest) := by
      rw [fromValue?, from?_eq_some_iff.2 ⟨b, rfl⟩]
      rfl
    exact ⟨_, _, .of_other marked_filterValue hinside fun _ => rfl, .of_match hne hmatch,
      .of_unmarked marked_toValue hvalue⟩
  | stop b =>
    have hmatch (rest : List Char) : toValue? last ((stop b).chars ++ rest) =
        some (last, rest) := by
      rw [toValue?, to?_eq_some_iff.2 ⟨b, rfl⟩]
      rfl
    exact ⟨_, _, .of_other marked_filterValue hinside fun _ => rfl,
      .of_other marked_fromValue hinside fun _ => rfl, .of_match hne hmatch⟩

theorem Expands.expandList_append {a b : List Char} (h : Expands first last a b) :
    expandList first last (a ++ s) = b ++ expandList first last s := by
  obtain ⟨a₁, a₂, hfilter, hfrom, hto⟩ := h
  simp only [expandList]
  rw [hfilter, hfrom, hto]

/-- **The three replacements, one after the other, are one pass.** -/
theorem onePass_expandList (hfirst : IsLiteral first) (hlast : IsLiteral last) (s : List Char) :
    OnePass first last s (expandList first last s) := by
  -- what is left after a placeholder is shorter, but not by one character
  induction hn : s.length using Nat.strong_induction_on generalizing s with
  | h n ih =>
    cases s with
    | nil =>
      rw [expandList_nil]
      exact .nil
    | cons c s =>
      by_cases h : NoneAt (c :: s)
      case pos =>
        rw [(expandList_copies hfirst hlast h).1]
        exact .copy h (ih s.length (by simp [← hn]) s rfl)
      case neg =>
        obtain ⟨p, hp⟩ := not_forall.1 h
        obtain ⟨rest, hrest⟩ := not_not.1 hp
        have hlength : rest.length < n := by
          have hlengths := congrArg List.length hrest
          simp only [Form.chars, List.length_append, List.length_cons] at hlengths hn
          omega
        rw [← hrest, (p.expands hfirst.no_dollar hlast.no_dollar).expandList_append]
        exact .replace p (ih rest.length hlength rest rfl)

/-- The pass gives one result only. -/
theorem OnePass.eq_expandList (hfirst : IsLiteral first) (hlast : IsLiteral last)
    (h : OnePass first last s t) : t = expandList first last s := by
  induction h with
  | nil => exact expandList_nil.symm
  | copy hnone _ ih => rw [(expandList_copies hfirst hlast hnone).1, ih]
  | replace p _ ih => rw [(p.expands hfirst.no_dollar hlast.no_dollar).expandList_append, ih]

/-! ## Nothing is left to replace -/

theorem free_cons_iff : Free (c :: s) ↔ NoneAt (c :: s) ∧ Free s := by
  simp only [Free, NoneAt, List.infix_cons_iff, not_or, forall_and]

theorem free_nil : Free [] := by
  intro p h
  exact List.cons_ne_nil _ _ (List.infix_nil.1 h)

/-- A text without a dollar sign adds no placeholder. -/
theorem Free.append_of_no_dollar {a : List Char} (ha : '$' ∉ a) (h : Free s) : Free (a ++ s) := by
  induction a with
  | nil => exact h
  | cons c a ih =>
    rw [List.mem_cons, not_or] at ha
    refine free_cons_iff.2 ⟨fun p hp => ha.1 (List.cons_prefix_cons.1 hp).1, ih ha.2⟩

/-- **The pass leaves no placeholder.** -/
theorem OnePass.free (hfirst : IsLiteral first) (hlast : IsLiteral last)
    (h : OnePass first last s t) : Free t := by
  induction h with
  | nil => exact free_nil
  | copy hnone hmore ih =>
    rw [hmore.eq_expandList hfirst hlast] at ih ⊢
    exact free_cons_iff.2 ⟨(expandList_copies hfirst hlast hnone).2, ih⟩
  | replace p _ ih =>
    exact .append_of_no_dollar (p.no_dollar_value hfirst.no_dollar hlast.no_dollar) ih

/-- Where there is no placeholder, the pass copies. -/
theorem Free.onePass (h : Free s) : OnePass first last s s := by
  induction s with
  | nil => exact .nil
  | cons c s ih =>
    obtain ⟨hnone, hmore⟩ := free_cons_iff.1 h
    exact .copy hnone (ih hmore)

end

theorem isLiteral_startLiteral (r : TimeRange) : IsLiteral r.startLiteral.toList :=
  ⟨⟨_, String.toList_ofList⟩, (r.not_mem_literals (c := '$') rfl (by decide)).1⟩

theorem isLiteral_stopLiteral (r : TimeRange) : IsLiteral r.stopLiteral.toList :=
  ⟨⟨_, String.toList_ofList⟩, (r.not_mem_literals (c := '$') rfl (by decide)).2⟩

/-- **Expanding a text is one pass over it** that replaces each placeholder where it begins and
    copies all else; no placeholder is left, and so expanding the result for any range changes
    nothing. -/
theorem expansion_in_one_pass (r : TimeRange) (sql : String) :
    (∀ t : String, OnePass r.startLiteral.toList r.stopLiteral.toList sql.toList t.toList ↔
      expand r sql = t) ∧
    Free (expand r sql).toList ∧ ∀ r' : TimeRange, expand r' (expand r sql) = expand r sql := by
  have hpass := onePass_expandList (isLiteral_startLiteral r) (isLiteral_stopLiteral r) sql.toList
  have hfree : Free (expand r sql).toList := by
    rw [expand, String.toList_ofList]
    exact hpass.free (isLiteral_startLiteral r) (isLiteral_stopLiteral r)
  refine ⟨fun t => ⟨fun h => ?_, ?_⟩, hfree, fun r' => ?_⟩
  · rw [expand, ← h.eq_expandList (isLiteral_startLiteral r) (isLiteral_stopLiteral r),
      String.ofList_toList]
  · rintro rfl
    rwa [expand, String.toList_ofList]
  · have hcopied := hfree.onePass.eq_expandList (isLiteral_startLiteral r')
      (isLiteral_stopLiteral r')
    rw [expand, ← hcopied, String.ofList_toList]

end Placeholder

end EnergyQuery
