/-
  Outline and payload of written tokens.

  For one kind of quoted text, the outline of tokens is what they are read as
  with the contents of these texts left out, and the payload are the contents,
  in their order.  Both are read piece by piece, so that two statements have the
  same outline if their parts have.

  * `outline_selectTokens`, `payload_selectTokens`: the parts of a selection;
  * `payload_of_restated`: a part that is spelled without quoted texts of one
    kind has none in its payload;
  * `payload_quotedFields`, `outline_quotedFields`: columns under quoted names.
-/
import EnergyQuery.Proofs.Sql.Lexing

namespace EnergyQuery.Sql

section
variable {d : Delimiter} {ts us : List Token} {t : Token} {l m : List Lexeme}

/-! ## Outlines and payloads -/

/-- What tokens are read as, without the contents of the texts that are quoted with `d`. -/
def outline (d : Delimiter) (ts : List Token) : List Lexeme :=
  (ts.flatMap Token.lexemes).map (Lexeme.without d)

/-- The contents of the texts that are quoted with `d`. -/
def payload (d : Delimiter) (ts : List Token) : List String :=
  contents d (ts.flatMap Token.lexemes)

@[simp] theorem outline_append : outline d (ts ++ us) = outline d ts ++ outline d us := by
  simp [outline]

@[simp] theorem payload_append : payload d (ts ++ us) = payload d ts ++ payload d us := by
  simp [payload]

@[simp] theorem payload_nil : payload d [] = [] := rfl

theorem payload_cons : payload d (t :: ts) = payload d [t] ++ payload d ts := by
  rw [← payload_append, List.singleton_append]

theorem payload_of_readsAs (h : ReadsAs t.text l) : payload d [t] = contents d l := by
  simp [payload, Token.lexemes, h.lexemes_eq]

theorem payload_raw {s : String} (h : ReadsAs s l) : payload d [.raw s] = contents d l :=
  payload_of_readsAs (t := .raw s) h

theorem outline_raw {s : String} (h : ReadsAs s l) :
    outline d [.raw s] = l.map (Lexeme.without d) := by
  simp [outline, Token.lexemes, Token.text, h.lexemes_eq]

/-- A text without delimiters has no payload. -/
theorem payload_raw_of_delimiterFree {s : String} (h : DelimiterFree s.toList) :
    payload d [.raw s] = [] := by
  rw [payload_raw (readsAs_of_delimiterFree h), contents_others]

/-- Fixed tokens have no payload. -/
theorem payload_of_fixed (h : ∀ t ∈ ts, t.isFixed = true) : payload d ts = [] := by
  induction ts with
  | nil => rfl
  | cons t ts ih =>
    have hfree := (Token.delimiterFree_of_isFixed (h t (by simp))).1
    rw [payload_cons, payload_of_readsAs (readsAs_of_delimiterFree hfree), contents_others,
      List.nil_append]
    exact ih fun u hu => h u (List.mem_cons_of_mem t hu)

theorem payload_flatMap {α : Type} {f : α → List Token} {xs : List α} :
    payload d (xs.flatMap f) = xs.flatMap fun x => payload d (f x) := by
  induction xs with
  | nil => rfl
  | cons x xs ih => rw [List.flatMap_cons, payload_append, ih, List.flatMap_cons]

/-- Tokens that are spelled without texts of the kind have no payload. -/
theorem payload_of_restated {N L : String → Prop} {w : Window} (hd : ∀ s, ¬d.Admits N L s)
    (h : List.Forall₂ (Token.Restated N L w) ts us) : payload d ts = [] := by
  induction h with
  | nil => rfl
  | cons ht _ ih =>
    obtain ⟨l, hl, hadmits⟩ := ht.text.exists_readsAs
    rw [payload_cons, payload_of_readsAs hl, ih, List.append_nil]
    exact List.eq_nil_iff_forall_not_mem.2 fun s hs => hd s (hadmits d s hs)

theorem payload_field {N L : String → Prop} {f : Field} (hd : ∀ s, ¬d.Admits N L s)
    (h : f.Spelled N L) : payload d f.tokens = [] :=
  payload_of_restated (w := .selected) hd (List.forall₂_same.2 h.restated)

/-! ### Parts of a statement -/

theorem payload_separated {ls : List (List Token)} :
    payload d (Token.separated [.comma, .space] ls) = ls.flatMap (payload d) := by
  have hseparator : payload d [.comma, .space] = [] := payload_of_fixed (by decide)
  induction ls with
  | nil => rfl
  | cons ts ls ih =>
    cases ls with
    | nil => simp [Token.separated]
    | cons us ls =>
      rw [Token.separated, payload_append, payload_append, hseparator, ih, List.append_nil]
      · rfl
      · simp

theorem outline_separated {sep : List Token} : ∀ {ls ms : List (List Token)},
    ls.map (outline d) = ms.map (outline d) →
      outline d (Token.separated sep ls) = outline d (Token.separated sep ms)
  | [], [], _ => rfl
  | [ts], [us], h => by simpa [Token.separated] using h
  | ts :: ts' :: ls, us :: us' :: ms, h => by
    obtain ⟨hhead, hmore⟩ := List.cons.inj h
    have ih : outline d (Token.separated sep (ts' :: ls)) =
        outline d (Token.separated sep (us' :: ms)) := outline_separated hmore
    have hsplit {vs vs' : List Token} {ks : List (List Token)} :
        outline d (Token.separated sep (vs :: vs' :: ks)) =
          outline d vs ++ outline d sep ++ outline d (Token.separated sep (vs' :: ks)) := by
      rw [Token.separated, outline_append, outline_append]
      simp
    rw [hsplit, hsplit, hhead, ih]
  | [], _ :: _, h => by simp at h
  | _ :: _, [], h => by simp at h
  | [_], _ :: _ :: _, h => by simp at h
  | _ :: _ :: _, [_], h => by simp at h

variable {fields fields' : List Field} {source source' : Option (List Token)} {joins : List Join}
  {clauses : List Clause}

/-- The payload of a selection is that of its columns, its source and the rest. -/
theorem payload_selectTokens :
    payload d (selectTokens fields source joins clauses) =
      (fields.flatMap fun f => payload d f.tokens) ++ source.elim [] (payload d) ++
        payload d (selectTokens [] none joins clauses) := by
  have hfields : payload d (Token.separated [.comma, .space] (fields.map Field.tokens)) =
      fields.flatMap fun f => payload d f.tokens := by
    rw [payload_separated, List.flatMap_map]
  have hselect : payload d [.kwSelect, .space] = [] := payload_of_fixed (by decide)
  have hfrom : payload d [.space, .kwFrom, .space] = [] := payload_of_fixed (by decide)
  cases source with
  | none => simp only [selectTokens, payload_append, hselect, hfields, List.map_nil, Token.separated,
      Option.elim_none, List.nil_append, List.append_nil, List.append_assoc]
  | some ts => simp only [selectTokens, payload_append, hselect, hfrom, hfields, List.map_nil,
      Token.separated, Option.elim_some, List.nil_append, List.append_assoc]

theorem payload_clauses :
    payload d (selectTokens [] none [] clauses) =
      clauses.flatMap fun c => payload d [.raw c.text] := by
  have hselect : payload d [.kwSelect, .space] = [] := payload_of_fixed (by decide)
  have hwhere : payload d [.space, .kwWhere] = [] := payload_of_fixed (by decide)
  have hspace : payload d [.space] = [] := payload_of_fixed (by decide)
  have hclause (c : Clause) : payload d [.space, .raw c.text] = payload d [.raw c.text] := by
    rw [payload_cons, hspace, List.nil_append]
  cases clauses with
  | nil => simpa [selectTokens, Token.separated] using hselect
  | cons c clauses =>
    simp only [selectTokens, List.isEmpty_cons, Bool.false_eq_true, if_false, payload_append, hselect,
      hwhere, List.map_nil, Token.separated, List.flatMap_nil, payload_nil, List.nil_append,
      payload_flatMap, hclause]

/-- The outline of a selection is given by those of its columns and its source. -/
theorem outline_selectTokens
    (hf : (fields.map fun f => outline d f.tokens) = fields'.map fun f => outline d f.tokens)
    (hs : source.map (outline d) = source'.map (outline d)) :
    outline d (selectTokens fields source joins clauses) =
      outline d (selectTokens fields' source' joins clauses) := by
  have hfields : outline d (Token.separated [.comma, .space] (fields.map Field.tokens)) =
      outline d (Token.separated [.comma, .space] (fields'.map Field.tokens)) :=
    outline_separated (by simpa [Function.comp_def] using hf)
  match source, source', hs with
  | none, none, _ => simp only [selectTokens, outline_append, hfields]
  | some ts, some us, hs =>
    have hsource : outline d ts = outline d us := Option.some.inj hs
    simp only [selectTokens, outline_append, hfields, hsource]

theorem payload_withTokens {ls : List (List Token)} :
    payload d (withTokens ls) = ls.flatMap (payload d) := by
  unfold withTokens
  cases ls with
  | nil => rfl
  | cons ts ls =>
    have hwith : payload d [.kwWith, .space] = [] := payload_of_fixed (by decide)
    have hspace : payload d [.space] = [] := payload_of_fixed (by decide)
    rw [List.isEmpty_cons, if_neg (by simp), payload_append, payload_append, payload_separated,
      hwith, hspace, List.nil_append, List.append_nil]

theorem outline_withTokens {ls ms : List (List Token)}
    (h : ls.map (outline d) = ms.map (outline d)) :
    outline d (withTokens ls) = outline d (withTokens ms) := by
  match ls, ms, h with
  | [], [], _ => rfl
  | ts :: ls, us :: ms, h =>
    have hstaged : outline d (Token.separated [.comma, .space] (ts :: ls)) =
        outline d (Token.separated [.comma, .space] (us :: ms)) := outline_separated h
    simp only [withTokens, List.isEmpty_cons, Bool.false_eq_true, if_false, outline_append, hstaged]

/-- The name of a common table expression is a word. -/
theorem payload_cteTokens {n : String} {body : List Token} (hn : IsWord n) :
    payload d (cteTokens n body) = payload d body := by
  have hname : payload d [.raw n] = [] := payload_raw_of_delimiterFree hn.ordinary.delimiterFree
  have hopen : payload d [.space, .kwAs, .space, .leftParen] = [] := payload_of_fixed (by decide)
  have hclose : payload d [.rightParen] = [] := payload_of_fixed (by decide)
  rw [cteTokens, payload_append, payload_append, payload_cons, hname, hopen, hclose, List.append_nil]
  rfl

theorem outline_cteTokens {n : String} {body body' : List Token}
    (h : outline d body = outline d body') :
    outline d (cteTokens n body) = outline d (cteTokens n body') := by
  simp only [cteTokens, outline_append, h]

/-- Common table expressions that are written one by one. -/
theorem ctesTokens_map {α : Type} {g : α → Statement} {n : α → String} {body : α → List Token}
    {xs : List α} (hn : ∀ x ∈ xs, (g x).name = some (n x))
    (hb : ∀ x ∈ xs, (g x).tokens = .ok (body x)) :
    Statement.ctesTokens (xs.map g) = .ok (xs.map fun x => cteTokens (n x) (body x)) := by
  induction xs with
  | nil => rfl
  | cons x xs ih =>
    rw [List.map_cons, Statement.ctesTokens, hb x (by simp), hn x (by simp),
      ih (fun y hy => hn y (List.mem_cons_of_mem _ hy)) fun y hy => hb y (List.mem_cons_of_mem _ hy)]
    rfl

/-! ### Columns -/

/-- A column whose name is not left out. -/
theorem Field.tokens_eq {f : Field} (h : f.isBare = false) :
    f.tokens = [.raw f.expr.text, .space, .kwAs, .space, .raw f.name.text] := by
  simp [tokens, h]

end

/-- Columns under quoted names. -/
def quotedFields (columns : List (Expr × String)) : List Field :=
  columns.map fun c => ⟨c.1, .quoted c.2⟩

section
variable {d : Delimiter} {e : Expr} {n : String} {columns columns' : List (Expr × String)}

/-- An expression without quoted texts does not read like a quoted name. -/
theorem isBare_quoted (h : DelimiterFree e.text.toList) : Field.isBare ⟨e, .quoted n⟩ = false := by
  have hquote : '"' ∈ (Text.quoteName n).toList := by simp [Text.quoteName, Text.quoted]
  rw [Field.isBare, beq_eq_false_iff_ne]
  intro heq
  have hmem : '"' ∈ e.text.toList := heq ▸ hquote
  exact absurd (h _ hmem) (by decide)

theorem payload_quoteName : payload .name [.raw (Text.quoteName n)] = [n] := by
  have hname : ReadsAs (Text.quoteName n) [.quoted .name n] := readsAs_quoted .name n
  rw [payload_raw hname, contents_quoted, if_pos rfl]

theorem outline_quoteName : outline .name [.raw (Text.quoteName n)] = [.quoted .name ""] := by
  have hname : ReadsAs (Text.quoteName n) [.quoted .name n] := readsAs_quoted .name n
  rw [outline_raw hname]
  rfl

theorem payload_quotedField (h : DelimiterFree e.text.toList) :
    payload .name (Field.mk e (.quoted n)).tokens = [n] := by
  have hexpr : payload .name [.raw e.text] = [] := payload_raw_of_delimiterFree h
  have has : payload .name [.space, .kwAs, .space] = [] := payload_of_fixed (by decide)
  have htokens : (Field.mk e (.quoted n)).tokens =
      [.raw e.text] ++ [.space, .kwAs, .space] ++ [.raw (Text.quoteName n)] :=
    Field.tokens_eq (isBare_quoted h)
  rw [htokens, payload_append, payload_append, hexpr, has, payload_quoteName]
  rfl

/-- The outline of a computed column does not tell its name. -/
theorem outline_quotedField (h : DelimiterFree e.text.toList) :
    outline .name (Field.mk e (.quoted n)).tokens =
      outline .name [.raw e.text, .space, .kwAs, .space] ++ [.quoted .name ""] := by
  have htokens : (Field.mk e (.quoted n)).tokens =
      [.raw e.text, .space, .kwAs, .space] ++ [.raw (Text.quoteName n)] :=
    Field.tokens_eq (isBare_quoted h)
  rw [htokens, outline_append, outline_quoteName]

theorem payload_quotedFields (h : ∀ c ∈ columns, DelimiterFree c.1.text.toList) :
    ((quotedFields columns).flatMap fun f => payload .name f.tokens) = columns.map (·.2) := by
  rw [quotedFields, List.flatMap_map, List.map_eq_flatMap]
  exact List.flatMap_congr fun c hc => payload_quotedField (h c hc)

/-- **The outline of computed columns does not tell their names.** -/
theorem outline_quotedFields (h : ∀ c ∈ columns, DelimiterFree c.1.text.toList)
    (h' : ∀ c ∈ columns', DelimiterFree c.1.text.toList)
    (heq : columns.map (·.1) = columns'.map (·.1)) :
    ((quotedFields columns).map fun f => outline .name f.tokens) =
      (quotedFields columns').map fun f => outline .name f.tokens := by
  have hshape {cs : List (Expr × String)} (hcs : ∀ c ∈ cs, DelimiterFree c.1.text.toList) :
      ((quotedFields cs).map fun f => outline .name f.tokens) = (cs.map (·.1)).map fun e =>
        outline .name [.raw e.text, .space, .kwAs, .space] ++ [.quoted .name ""] := by
    rw [quotedFields, List.map_map, List.map_map]
    exact List.map_congr_left fun c hc => outline_quotedField (hcs c hc)
  rw [hshape h, hshape h', heq]

/-- A quoted column under its own name. -/
theorem tokens_ofName : (Field.ofName (.quoted n)).tokens = [.raw (Text.quoteName n)] := by
  have hbare : (Field.ofName (.quoted n)).isBare = true := beq_self_eq_true _
  rw [Field.tokens, hbare]
  rfl

end

end EnergyQuery.Sql
