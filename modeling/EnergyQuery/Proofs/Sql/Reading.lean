/-
  Reading written sums.

  A sum is read as terms with `+` and `-` between them, from left to right, after
  a minus sign that belongs to the first term only.  A term is
  `COALESCE(operand, 0)`, an operand a qualified column or its `MAX` or `MIN`.
  Blanks separate words and mean nothing else.

  * `SumSymbol.ofChars` takes a text apart into words and punctuation;
  * `Expr.read` is the expression that a text stands for, if it is of this form;
  * `Spells t ts`: the text `t` is taken apart into `ts`, whatever follows it, so
    that texts are read one after the other (`Spells.append`);
  * `read_signedSum`, `read_spanSum`: the two sums are read back, which shows that
    no sign reaches further than its term.
-/
import EnergyQuery.Proofs.Sql.Meaning
import EnergyQuery.Proofs.Sql.SignedSum
import EnergyQuery.Proofs.Sql.Spelling

namespace EnergyQuery.Sql

/-! ## Words and punctuation -/

/-- A word or a punctuation mark of a written sum. -/
inductive SumSymbol where
  | word (w : List Char)
  | leftParen
  | rightParen
  | comma
  | point
  | plus
  | minus
  deriving DecidableEq, Repr

namespace SumSymbol

/-- The punctuation that a character is. -/
def ofChar? : Char → Option SumSymbol
  | '(' => some leftParen
  | ')' => some rightParen
  | ',' => some comma
  | '.' => some point
  | '+' => some plus
  | '-' => some minus
  | _ => none

/-- The symbols after a word; no word is left where nothing was read. -/
def behind (w : List Char) (s : List SumSymbol) : List SumSymbol :=
  if w.isEmpty then s else word w :: s

/-- The symbols of a text, the word `w` having been begun. -/
def ofChars (w : List Char) : List Char → List SumSymbol
  | [] => behind w []
  | c :: s =>
    match ofChar? c with
    | some m => behind w (m :: ofChars [] s)
    | none => if c = ' ' then behind w (ofChars [] s) else ofChars (w ++ [c]) s

/-- The sign that joins two terms. -/
def sign? : SumSymbol → Option Sign
  | plus => some .plus
  | minus => some .minus
  | _ => none

end SumSymbol

/-! ## Sums -/

section
open SumSymbol

/-- `relation.name` -/
def readColumn : List SumSymbol → Option (Expr × List SumSymbol)
  | word r :: point :: word n :: s => some (.ref (String.ofList r) (String.ofList n), s)
  | _ => none

/-- A column, or `MAX` or `MIN` of one. -/
def readOperand : List SumSymbol → Option (Expr × List SumSymbol)
  | word f :: leftParen :: s => do
    match ← readColumn s with
    | (e, rightParen :: s) =>
      if f = "MAX".toList then some (.max e, s)
      else if f = "MIN".toList then some (.min e, s)
      else none
    | _ => none
  | s => readColumn s

/-- `COALESCE(operand, 0)` -/
def readTerm : List SumSymbol → Option (Expr × List SumSymbol)
  | word f :: leftParen :: s => do
    match ← readOperand s with
    | (e, comma :: word z :: rightParen :: s) =>
      if f = "COALESCE".toList ∧ z = "0".toList then some (.orZero e, s) else none
    | _ => none
  | _ => none

/-- The terms after a total, each behind its sign. -/
def readTerms (total : Expr) : List SumSymbol → Option Expr
  | [] => some total
  | m :: s =>
    match m.sign?, readTerm s with
    | some sign, some (e, rest) =>
      -- A term takes at least one symbol, so that the test always holds.
      if rest.length ≤ s.length then readTerms (sign.extend total e) rest else none
    | _, _ => none
termination_by s => s.length

/-- A sum whose first term has the sign `sign`. -/
def readSumFrom (sign : Sign) (s : List SumSymbol) : Option Expr := do
  let (e, s) ← readTerm s
  readTerms (sign.lead e) s

/-- A sum, after the minus sign of its first term if there is one. -/
def readSum : List SumSymbol → Option Expr
  | minus :: s => readSumFrom .minus s
  | s => readSumFrom .plus s

/-- The expression that a text stands for. -/
def Expr.read (t : String) : Option Expr :=
  readSum (ofChars [] t.toList)

end

/-! ## Texts one after the other -/

/-- The text is taken apart into these symbols, whatever follows it. -/
def Spells (t : String) (ts : List SumSymbol) : Prop :=
  ∀ s, SumSymbol.ofChars [] (t.toList ++ s) = ts ++ SumSymbol.ofChars [] s

/-- A word that is not empty. -/
structure IsName (n : String) : Prop where
  word : IsWord n
  ne_empty : n ≠ ""

instance {n : String} : Decidable (IsName n) :=
  decidable_of_iff (IsWord n ∧ n ≠ "") ⟨fun h => ⟨h.1, h.2⟩, fun h => ⟨h.word, h.ne_empty⟩⟩

section
variable {t u n r : String} {ts us : List SumSymbol} {w v s : List Char} {c : Char} {m : SumSymbol}
  {sp : Spacing}

theorem Spells.append (ht : Spells t ts) (hu : Spells u us) : Spells (t ++ u) (ts ++ us) := by
  intro s
  rw [String.toList_append, List.append_assoc, ht, hu, List.append_assoc]

theorem Spells.ofChars_eq (h : Spells t ts) : SumSymbol.ofChars [] t.toList = ts := by
  have hend : SumSymbol.ofChars [] [] = [] := rfl
  have hnone := h []
  rwa [hend, List.append_nil, List.append_nil] at hnone

/-- Letters, digits and underscores are no punctuation. -/
theorem ofChars_word_char (h : (c.isAlphanum || c == '_') = true) :
    SumSymbol.ofChars w (c :: s) = SumSymbol.ofChars (w ++ [c]) s := by
  have hmark : SumSymbol.ofChar? c = none := by
    unfold SumSymbol.ofChar?
    split
    case h_7 => rfl
    all_goals exact absurd h (by decide)
  have hblank : c ≠ ' ' := by
    rintro rfl
    exact absurd h (by decide)
  rw [SumSymbol.ofChars, hmark]
  exact if_neg hblank

theorem ofChars_word (h : ∀ c ∈ v, (c.isAlphanum || c == '_') = true) :
    SumSymbol.ofChars w (v ++ s) = SumSymbol.ofChars (w ++ v) s := by
  induction v generalizing w with
  | nil => rw [List.nil_append, List.append_nil]
  | cons c v ih =>
    obtain ⟨hc, hv⟩ := List.forall_mem_cons.1 h
    rw [List.cons_append, ofChars_word_char hc, ih hv, List.append_assoc, List.singleton_append]

/-- **A name ends at the punctuation after it.** -/
theorem Spells.name (hn : IsName n) (hm : t.toList.head?.bind SumSymbol.ofChar? = some m)
    (ht : Spells t ts) : Spells (n ++ t) (.word n.toList :: ts) := by
  intro s
  obtain ⟨c, hc, hmark⟩ := Option.bind_eq_some_iff.1 hm
  obtain ⟨u, hu⟩ := List.head?_eq_some_iff.1 hc
  have hread {w : List Char} : SumSymbol.ofChars w (c :: (u ++ s)) =
      SumSymbol.behind w (m :: SumSymbol.ofChars [] (u ++ s)) := by
    rw [SumSymbol.ofChars, hmark]
  have hrest : m :: SumSymbol.ofChars [] (u ++ s) = ts ++ SumSymbol.ofChars [] s := by
    rw [← ht s, hu, List.cons_append, hread]
    rfl
  have hne : n.toList.isEmpty = false := by
    rw [List.isEmpty_eq_false_iff]
    exact fun hnil => hn.ne_empty (String.toList_eq_nil_iff.1 hnil)
  calc SumSymbol.ofChars [] ((n ++ t).toList ++ s)
      = SumSymbol.ofChars [] (n.toList ++ c :: (u ++ s)) := by
        rw [String.toList_append, hu, List.append_assoc, List.cons_append]
    _ = SumSymbol.behind n.toList (m :: SumSymbol.ofChars [] (u ++ s)) := by
        rw [ofChars_word (List.all_eq_true.1 hn.word), hread, List.nil_append]
    _ = .word n.toList :: ts ++ SumSymbol.ofChars [] s := by
        rw [SumSymbol.behind, hne, hrest]
        rfl

theorem spells_column (hr : IsName r) (hn : IsName n)
    (hm : t.toList.head?.bind SumSymbol.ofChar? = some m) (ht : Spells t ts) :
    Spells (r ++ "." ++ n ++ t) (.word r.toList :: .point :: .word n.toList :: ts) := by
  have hpoint : Spells "." [.point] := fun _ => rfl
  have hmark : ("." ++ (n ++ t)).toList.head?.bind SumSymbol.ofChar? = some .point := by
    rw [String.toList_append]
    rfl
  rw [String.append_assoc, String.append_assoc]
  exact Spells.name hr hmark (hpoint.append (ht.name hn hm))

/-! ## Terms -/

/-- A qualified column, its largest or its smallest value. -/
inductive Expr.Operand : Expr → Prop
  | column {r n : String} : IsName r → IsName n → Operand (.ref r n)
  | max {r n : String} : IsName r → IsName n → Operand (.max (.ref r n))
  | min {r n : String} : IsName r → IsName n → Operand (.min (.ref r n))

variable {e : Expr}

theorem readColumn_symbols :
    readColumn (.word r.toList :: .point :: .word n.toList :: ts) = some (.ref r n, ts) := by
  rw [readColumn, String.ofList_toList, String.ofList_toList]

/-- The text is read as the operand `e`, where punctuation follows it. -/
def IsReadAsOperand (t : String) (e : Expr) : Prop :=
  ∃ ts, (∀ rest, readOperand (ts ++ rest) = some (e, rest)) ∧
    ∀ {u us m}, u.toList.head?.bind SumSymbol.ofChar? = some m → Spells u us →
      Spells (t ++ u) (ts ++ us)

/-- A function of a column is read back. -/
theorem isReadAsOperand_call {f : List Char} {opening : String}
    (hopen : Spells opening [.word f, .leftParen]) (hr : IsName r) (hn : IsName n)
    (hread : ∀ rest, readOperand (.word f :: .leftParen :: .word r.toList :: .point ::
      .word n.toList :: .rightParen :: rest) = some (e, rest)) :
    IsReadAsOperand (opening ++ (r ++ "." ++ n) ++ ")") e := by
  have hclose : Spells ")" [.rightParen] := fun _ => rfl
  have hmark : ")".toList.head?.bind SumSymbol.ofChar? = some .rightParen := rfl
  have hwrite := hopen.append (spells_column hr hn hmark hclose)
  rw [← String.append_assoc] at hwrite
  exact ⟨_, hread, fun _ ht => hwrite.append ht⟩

theorem readOperand_call {f : List Char} :
    readOperand (.word f :: .leftParen :: .word r.toList :: .point :: .word n.toList ::
        .rightParen :: ts) =
      if f = "MAX".toList then some (.max (.ref r n), ts)
      else if f = "MIN".toList then some (.min (.ref r n), ts)
      else none := by
  show (readColumn (.word r.toList :: .point :: .word n.toList :: .rightParen :: ts) >>= _) = _
  rw [readColumn_symbols]
  rfl

/-- **An operand is read back**, where punctuation follows it. -/
theorem Expr.Operand.isReadAsOperand (h : e.Operand) (sp : Spacing) :
    IsReadAsOperand (e.write sp) e := by
  cases h with
  | @column r n hr hn =>
    refine ⟨[.word r.toList, .point, .word n.toList], fun rest => readColumn_symbols, ?_⟩
    exact fun hm ht => spells_column hr hn hm ht
  | max hr hn => exact isReadAsOperand_call (fun _ => rfl) hr hn fun _ => readOperand_call
  | min hr hn => exact isReadAsOperand_call (fun _ => rfl) hr hn fun _ => readOperand_call

/-- The text is read as the term `e`, whatever follows it. -/
def IsRead (t : String) (e : Expr) : Prop :=
  ∃ ts, (∀ rest, readTerm (ts ++ rest) = some (e, rest)) ∧ Spells t ts

/-- **A value that counts as zero where it is missing is read back.** -/
theorem isRead_orZero (h : e.Operand) : IsRead ((Expr.orZero e).write sp) (.orZero e) := by
  have hopen : Spells "COALESCE(" [.word "COALESCE".toList, .leftParen] := fun _ => rfl
  have hzero : Spells (sp.comma ++ "0)") [.comma, .word "0".toList, .rightParen] := by
    cases sp <;> exact fun _ => rfl
  have hmark : (sp.comma ++ "0)").toList.head?.bind SumSymbol.ofChar? = some .comma := by
    cases sp <;> rfl
  obtain ⟨ts, hread, hspells⟩ := h.isReadAsOperand sp
  refine ⟨.word "COALESCE".toList :: .leftParen :: (ts ++ [.comma, .word "0".toList, .rightParen]),
    fun rest => ?_, ?_⟩
  · show (readOperand (ts ++ [.comma, .word "0".toList, .rightParen] ++ rest) >>= _) = _
    rw [List.append_assoc, hread]
    rfl
  · have hwrite := hopen.append (hspells hmark hzero)
    rw [← String.append_assoc, ← String.append_assoc] at hwrite
    exact hwrite

/-! ## Sums -/

theorem spells_operator (sp : Spacing) (sign : Sign) : ∃ x : SumSymbol, x.sign? = some sign ∧
    Spells (sp.operator sign.text) [x] := by
  cases sign with
  | plus => exact ⟨.plus, rfl, by cases sp <;> exact fun _ => rfl⟩
  | minus => exact ⟨.minus, rfl, by cases sp <;> exact fun _ => rfl⟩

/-- **Each further term is read behind its sign.** -/
theorem exists_readTerms {terms : List (Sign × Expr)}
    (h : ∀ t ∈ terms, IsRead (t.2.write sp) t.2) :
    ∃ ts, Spells (String.join (terms.map fun t => sp.operator t.1.text ++ t.2.write sp)) ts ∧
      ∀ total, readTerms total ts =
        some (terms.foldl (fun total t => t.1.extend total t.2) total) := by
  induction terms with
  | nil => exact ⟨[], fun _ => rfl, fun total => by rw [readTerms]; rfl⟩
  | cons t terms ih =>
    obtain ⟨ht, hterms⟩ := List.forall_mem_cons.1 h
    obtain ⟨us, hread, hspells⟩ := ht
    obtain ⟨ts, hmore, hrest⟩ := ih hterms
    obtain ⟨x, hsign, hoperator⟩ := spells_operator sp t.1
    refine ⟨[x] ++ us ++ ts, ?_, fun total => ?_⟩
    · rw [List.map_cons, String.join_cons]
      exact (hoperator.append hspells).append hmore
    · have hlength : ts.length ≤ (us ++ ts).length := by simp
      rw [List.append_assoc, List.singleton_append, readTerms, hsign, hread]
      dsimp only
      rw [if_pos hlength, hrest, List.foldl_cons]

/-- What is read as a term does not begin with a minus sign. -/
theorem readSum_of_readTerm {p : Expr × List SumSymbol} (h : readTerm ts = some p) :
    readSum ts = readSumFrom .plus ts := by
  unfold readSum
  split
  · cases h
  · rfl

theorem exists_readSumFrom (sign : Sign) {terms : List (Sign × Expr)} (he : IsRead (e.write sp) e)
    (h : ∀ t ∈ terms, IsRead (t.2.write sp) t.2) :
    ∃ ts, readSumFrom sign ts = some (.signedSum ((sign, e) :: terms)) ∧
      (∃ p, readTerm ts = some p) ∧
      Spells (e.write sp ++ String.join (terms.map fun t => sp.operator t.1.text ++ t.2.write sp))
        ts := by
  obtain ⟨us, hread, hspells⟩ := he
  obtain ⟨ts, hmore, hrest⟩ := exists_readTerms h
  refine ⟨us ++ ts, ?_, ⟨_, hread ts⟩, hspells.append hmore⟩
  show (readTerm (us ++ ts) >>= fun p => readTerms (sign.lead p.1) p.2) = _
  rw [hread]
  exact hrest (sign.lead e)

/-- **A signed sum is read back.** -/
theorem read_signedSum {terms : List (Sign × Expr)} (hne : terms ≠ [])
    (hlevel : ∀ t ∈ terms, 1 ≤ t.2.level) (h : ∀ t ∈ terms, IsRead (t.2.write sp) t.2) :
    Expr.read ((Expr.signedSum terms).write sp) = some (.signedSum terms) := by
  obtain ⟨⟨sign, e⟩, terms, rfl⟩ := List.exists_cons_of_ne_nil hne
  obtain ⟨he, hterms⟩ := List.forall_mem_cons.1 h
  obtain ⟨ts, hread, ⟨p, hp⟩, hspells⟩ := exists_readSumFrom sign he hterms
  have hwrite : (Expr.signedSum ((sign, e) :: terms)).write sp = sign.leadText ++ (e.write sp ++
      String.join (terms.map fun t => sp.operator t.1.text ++ t.2.write sp)) := by
    rw [Expr.write_signedSum hlevel, List.map_cons, writtenSum, List.map_map, String.append_assoc]
    rfl
  rw [hwrite, Expr.read]
  cases sign with
  | plus =>
    rw [Sign.leadText, String.empty_append, hspells.ofChars_eq, readSum_of_readTerm hp]
    exact hread
  | minus =>
    have hminus : Spells "-" [.minus] := fun _ => rfl
    rw [Sign.leadText, (hminus.append hspells).ofChars_eq]
    exact hread

/-- **A signed sum of spans is read back** as the two terms of each span. -/
theorem read_spanSum {terms : List (Sign × Expr)} (hne : terms ≠ [])
    (h : ∀ t ∈ terms, (Expr.max t.2).Operand ∧ (Expr.min t.2).Operand) :
    Expr.read (Expr.spanSum terms).text =
      some (.signedSum (terms.flatMap fun t => Expr.spanTerms t.1 t.2)) := by
  have hflat : terms.flatMap (fun t => Expr.spanTerms t.1 t.2) ≠ [] := by
    obtain ⟨t, more, rfl⟩ := List.exists_cons_of_ne_nil hne
    simp [Expr.spanTerms]
  refine read_signedSum hflat (fun _ hu => Expr.level_of_mem_spanTerms hu) ?_
  intro u hu
  obtain ⟨t, ht, hu⟩ := List.mem_flatMap.1 hu
  obtain rfl | rfl := by simpa [Expr.spanTerms] using hu
  · exact isRead_orZero (h t ht).1
  · exact isRead_orZero (h t ht).2

/-! ## What written sums mean -/

/-- The value of a column in a row, zero where it is missing. -/
def refOrZero (σ : Scope) (r n : String) : ℚ :=
  (σ.ref r n).getD 0

/-- The largest value of a column in a group of rows less its smallest one, zero for either where
    it is missing. -/
def refSpan (g : List Scope) (r n : String) : ℚ :=
  (largest (g.map fun τ => τ.ref r n)).getD 0 - (smallest (g.map fun τ => τ.ref r n)).getD 0

/-- The text can be read, and has the value `v` in every row of every group. -/
def Means (t : String) (v : List Scope → Scope → ℚ) : Prop :=
  ∃ e, Expr.read t = some e ∧ ∀ g σ, e.value g σ = some (v g σ)

variable {α : Type} {l : List α} {relation name : α → String}

/-- **The written sum of signed columns is their signed sum**, a missing value counting as zero. -/
theorem means_signedSum (hne : l ≠ []) (sign : α → Sign)
    (hl : ∀ a ∈ l, IsName (relation a) ∧ IsName (name a)) :
    Means (Expr.signedSum (l.map fun a =>
        (sign a, .orZero (.ref (relation a) (name a))))).text fun _ σ =>
      (l.map fun a => (sign a).apply (refOrZero σ (relation a) (name a))).sum := by
  refine ⟨_, read_signedSum (by simpa using hne) ?_ ?_, fun g σ => ?_⟩
  · intro t ht
    obtain ⟨a, -, rfl⟩ := List.mem_map.1 ht
    exact Nat.le_succ 1
  · intro t ht
    obtain ⟨a, ha, rfl⟩ := List.mem_map.1 ht
    exact isRead_orZero (.column (hl a ha).1 (hl a ha).2)
  · rw [Expr.value_signedSum_orZero hne, Expr.signedTotal, List.map_map]
    rfl

/-- **The written sum of signed spans is their signed sum**, a missing value counting as zero. -/
theorem means_spanSum (hne : l ≠ []) (sign : α → Sign)
    (hl : ∀ a ∈ l, IsName (relation a) ∧ IsName (name a)) :
    Means (Expr.spanSum (l.map fun a => (sign a, .ref (relation a) (name a)))).text fun g _ =>
      (l.map fun a => (sign a).apply (refSpan g (relation a) (name a))).sum := by
  have hspans : l.map (fun a => (sign a, Expr.ref (relation a) (name a))) ≠ [] := by simpa using hne
  refine ⟨_, read_spanSum hspans ?_, fun g σ => ?_⟩
  · intro t ht
    obtain ⟨a, ha, rfl⟩ := List.mem_map.1 ht
    exact ⟨.max (hl a ha).1 (hl a ha).2, .min (hl a ha).1 (hl a ha).2⟩
  · refine (Expr.value_spanSum hspans).trans ?_
    rw [Expr.signedTotal, List.map_map, List.map_map]
    exact congrArg (fun xs => some (List.sum xs))
      (List.map_congr_left fun a _ => congrArg (sign a).apply Expr.getD_spanValue)

end

end EnergyQuery.Sql
