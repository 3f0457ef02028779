/-
  Labels do not change the structure of a statement.

  The labels of a weather station become quoted names of columns.  Read back
  with the rules for quoted names, the statements of two labellings differ in
  these names only, and the names are the labels that were given.

  * `Quotes k g`: the outline of the statement `k columns` does not tell the
    names of the columns, and the names that it quotes are `g` of them;
  * `Family.quotes_scan`, `Alignment.quotes_statement`: the columns of one
    device, and those of several;
  * `Reads x l`: the statement can be composed, and its text is read as `l`;
  * `Weather.reads_temperatures`: the statements of two labellings.
-/
import EnergyQuery.Proofs.Query.Weather
import EnergyQuery.Proofs.Sql.Payload

namespace EnergyQuery

open Sql

/-! ## Names of columns -/

/-- Nothing in the text is quoted. -/
abbrev Unquoted : String → Prop := fun _ => False

/-- A column that is computed without quoted texts. -/
def PlainColumns (columns : List (Expr × String)) : Prop :=
  ∀ c ∈ columns, c.1.Spelled Unquoted Unquoted

theorem PlainColumns.delimiterFree {columns : List (Expr × String)} (h : PlainColumns columns) :
    ∀ c ∈ columns, DelimiterFree c.1.text.toList := by
  intro c hc
  have hrestated : Restated Unquoted Unquoted .selected c.1.text c.1.text := (h c hc).restated
  exact hrestated.delimiterFree

theorem not_admits_unquoted (d : Delimiter) (s : String) : ¬d.Admits Unquoted Unquoted s := by
  cases d <;> exact id

/-- What is spelled without quoted texts has no payload. -/
theorem payload_eq_nil {d : Delimiter} {w : Window} {ts us : List Token}
    (h : List.Forall₂ (Token.Restated Unquoted Unquoted w) ts us) : payload d ts = [] :=
  payload_of_restated (not_admits_unquoted d) h

/-- The outline of the statement does not tell the names of its columns, and the names that it
    quotes are `g` of them. -/
def Quotes (k : List (Expr × String) → Statement) (g : List String → List String) : Prop :=
  ∃ written : List (Expr × String) → List Token, ∀ columns, PlainColumns columns →
    (k columns).tokens = .ok (written columns) ∧
      payload .name (written columns) = g (columns.map (·.2)) ∧
        ∀ columns', PlainColumns columns' → columns.map (·.1) = columns'.map (·.1) →
          outline .name (written columns) = outline .name (written columns')

section
variable {columns : List (Expr × String)} {d : Delimiter}

theorem payload_time : payload d Field.time.tokens = [] :=
  payload_field (not_admits_unquoted d) Family.spelled_time

/-- The rest of a selection has no payload if it is spelled without quoted texts. -/
theorem payload_rest {joins : List Join} {clauses : List Clause}
    (hj : ∀ j ∈ joins, j.Spelled Unquoted Unquoted) (hc : ∀ c ∈ clauses, c.Spelled Unquoted) :
    payload d (selectTokens [] none joins clauses) = [] := by
  have hfields : ∀ f ∈ ([] : List Field), f.Spelled Unquoted Unquoted := by simp
  exact payload_eq_nil (w := .selected) (restated_selectTokens hfields .none hj hc)

/-- **The columns of one device** are quoted once. -/
theorem Family.quotes_scan {f : Family} {i : ℕ} (hf : f ∈ Family.all) :
    Quotes (fun columns => (f.scan i (.time :: quotedFields columns)).inWindow.ordered)
      fun names => names := by
  have hclauses : ∀ c ∈ (f.scan i []).inWindow.ordered.clauses, c.Spelled Unquoted :=
    (Statement.spelled_iff.1 (spelled_inWindow (N := Unquoted) hf (by simp)).ordered).2.2.2.2
  refine ⟨fun columns => selectTokens (.time :: quotedFields columns) (some [.raw f.table]) []
    (f.scan i []).inWindow.ordered.clauses, fun columns hplain =>
      ⟨rfl, ?_, fun columns' hplain' heq => ?_⟩⟩
  · have htable : payload .name [.raw f.table] = [] :=
      payload_raw_of_delimiterFree (Family.isWord_names f hf).2.ordinary.delimiterFree
    rw [payload_selectTokens, List.flatMap_cons, payload_time,
      payload_quotedFields hplain.delimiterFree, payload_rest (by simp) hclauses, Option.elim_some,
      htable, List.nil_append, List.append_nil, List.append_nil]
  · refine outline_selectTokens ?_ rfl
    rw [List.map_cons, List.map_cons,
      outline_quotedFields hplain.delimiterFree hplain'.delimiterFree heq]

namespace Alignment
variable {a : Alignment}

/-- The tokens of the columns over the joined relations, for common table expressions that are
    written as `staged`. -/
def written (a : Alignment) (staged : List (List Token)) (columns : List (Expr × String)) :
    List Token :=
  withTokens staged ++ selectTokens (.time :: (quotedFields columns).map fun f => .ofName f.name)
    (some (a.compute (quotedFields columns)).source.tokens) [] [.timePresent none, .orderedByTime]

theorem payload_names : ((quotedFields columns).map fun f => Field.ofName f.name).flatMap
    (fun f => payload .name f.tokens) = columns.map (·.2) := by
  rw [quotedFields, List.map_map, List.flatMap_map, List.map_eq_flatMap]
  refine List.flatMap_congr fun c _ => ?_
  show payload .name (Field.ofName (.quoted c.2)).tokens = [c.2]
  rw [tokens_ofName, payload_quoteName]

theorem outline_names : ((quotedFields columns).map fun f => Field.ofName f.name).map
    (fun f => outline .name f.tokens) = (columns.map (·.1)).map fun _ => [.quoted .name ""] := by
  rw [quotedFields, List.map_map, List.map_map, List.map_map]
  refine List.map_congr_left fun c _ => ?_
  show outline .name (Field.ofName (.quoted c.2)).tokens = _
  rw [tokens_ofName, outline_quoteName]
  rfl

/-- The derived table: its columns, between texts that quote nothing. -/
theorem payload_source (ha : a.Spelled Unquoted Unquoted) (hfields : a.fields = [])
    (hplain : PlainColumns columns) :
    payload .name (a.compute (quotedFields columns)).source.tokens = columns.map (·.2) := by
  have hopen : payload .name [.leftParen] = [] := payload_of_fixed (by decide)
  have hclose : payload .name [.space, .kwOffset, .space, .number 0, .rightParen, .space, .kwAs,
      .space, .raw derivedName] = [] :=
    payload_eq_nil (w := .selected) (restated_of_ordinary (by decide))
  have hanchor : payload .name [.raw a.anchor] = [] := by
    have hword := ha.relations a.anchor (by simp [relations])
    exact payload_raw_of_delimiterFree hword.ordinary.delimiterFree
  have htime : payload .name (timeOf a.anchor a.others).tokens = [] :=
    payload_field (not_admits_unquoted .name) (spelled_timeOf ha.relations)
  have hjoins : ∀ j ∈ a.joins, j.Spelled Unquoted Unquoted := by
    rw [ha.joins]
    exact spelled_joins ha.relations
  have hrest : payload .name (selectTokens [] none a.joins []) = [] :=
    payload_rest hjoins (by simp)
  have hchain : payload .name (a.compute (quotedFields columns)).inner.tokens =
      columns.map (·.2) := by
    rw [Chain.tokens, payload_selectTokens]
    simp only [inner, compute, hfields, List.nil_append, List.flatMap_cons, htime,
      payload_quotedFields hplain.delimiterFree, Option.elim_some, hanchor, hrest, List.append_nil]
  rw [source, Source.tokens, payload_append, payload_append, hopen, hchain, hclose, List.nil_append,
    List.append_nil]

theorem outline_source (hfields : a.fields = []) {columns' : List (Expr × String)}
    (hplain : PlainColumns columns) (hplain' : PlainColumns columns')
    (heq : columns.map (·.1) = columns'.map (·.1)) :
    outline .name (a.compute (quotedFields columns)).source.tokens =
      outline .name (a.compute (quotedFields columns')).source.tokens := by
  have hchain : outline .name (a.compute (quotedFields columns)).inner.tokens =
      outline .name (a.compute (quotedFields columns')).inner.tokens := by
    refine outline_selectTokens ?_ rfl
    simp only [inner, compute, hfields, List.nil_append, List.map_cons,
      outline_quotedFields hplain.delimiterFree hplain'.delimiterFree heq]
  rw [source, source, Source.tokens, Source.tokens, outline_append, outline_append, outline_append,
    outline_append, hchain]

/-- **The columns of several devices** are quoted twice: in the derived table, and where they are
    selected from it. -/
theorem quotes_statement (ha : a.Spelled Unquoted Unquoted) (hfields : a.fields = []) :
    Quotes (fun columns => (a.compute (quotedFields columns)).statement)
      fun names => names ++ names := by
  obtain ⟨staged, us, hstaged, -, hrel⟩ := Statement.CtesSpelled.exists_tokens (w := .selected)
    (Statement.ctesSpelled_iff.2 ha.staged)
  have hwith : payload .name (withTokens staged) = [] := by
    rw [payload_withTokens, List.flatMap_eq_nil_iff]
    intro ts hts
    obtain ⟨i, hi, rfl⟩ := List.getElem_of_mem hts
    have hi' := hrel.get hi (hrel.length_eq ▸ hi)
    exact payload_eq_nil hi'
  refine ⟨a.written staged, fun columns hplain => ⟨?_, ?_, fun columns' hplain' heq => ?_⟩⟩
  · have htokens : (a.compute (quotedFields columns)).statement.tokens =
        (Statement.ctesTokens a.staged).bind fun staged =>
          .ok (withTokens staged ++ selectTokens
            (.time :: ((a.compute (quotedFields columns)).fields.map fun f => .ofName f.name))
            (some (a.compute (quotedFields columns)).source.tokens) []
            [.timePresent none, .orderedByTime]) := rfl
    have hcompute : (a.compute (quotedFields columns)).fields = quotedFields columns := by
      simp [compute, hfields]
    rw [htokens, hstaged, hcompute]
    rfl
  · rw [written, payload_append, hwith, payload_selectTokens, List.flatMap_cons, payload_time,
      payload_names, Option.elim_some, payload_source ha hfields hplain,
      payload_rest (by simp) (by simp [Clause.Spelled])]
    simp
  · rw [written, written, outline_append, outline_append]
    refine congrArg _ (outline_selectTokens ?_ ?_)
    · rw [List.map_cons, List.map_cons, outline_names, outline_names, heq]
    · rw [Option.map_some, Option.map_some, outline_source hfields hplain hplain' heq]

end Alignment

end

/-! ## Composed statements -/

/-- The statement can be composed and written, and its text is read as `l`. -/
def Reads (x : Composed Statement) (l : List Lexeme) : Prop :=
  ∃ s text, x = .ok s ∧ s.render = .ok text ∧ lex text.toList = some l

/-- A spelled statement is read as its tokens are. -/
theorem reads_of_tokens {N L : String → Prop} {x : Composed Statement} {s : Statement}
    {ts : List Token} (hx : x = .ok s) (hs : s.Spelled N L) (ht : s.tokens = .ok ts) :
    Reads x (ts.flatMap Token.lexemes) := by
  obtain ⟨us, hus, hrender, hlex⟩ := hs.lex_render
  obtain rfl : us = ts := Except.ok.inj (hus.symm.trans ht)
  exact ⟨s, Token.render us, hx, hrender, hlex⟩

/-! ## Labels -/

namespace Weather
variable {ids : List ℕ} {labels labels' : List String}

/-- The names of the columns: the outdoor temperature and the labels that are shown, for each
    station. -/
def columnNames (ids : List ℕ) (labels : List String) : List String :=
  ids.flatMap fun id =>
    ("temp_c" :: Labels.shown labels).map fun l => "weather" ++ toString id ++ "." ++ l

/-- The columns of several stations are named in the derived table and where they are selected. -/
def quotedNames (ids : List ℕ) (names : List String) : List String :=
  if ids.length = 1 then names else names ++ names

/-- For labels that show the quantities `qs`, the statement is `k` of columns that compute `exprs`
    under the names of the labels. -/
def LaidOut (ids : List ℕ) (qs : List Quantity) (k : List (Expr × String) → Statement)
    (exprs : List Expr) : Prop :=
  ∀ labels, Labels.check labels = .ok () → (channels labels).map (·.quantity) = qs →
    ∃ columns, PlainColumns columns ∧ temperatures ids labels = .ok (k columns) ∧
      columns.map (·.1) = exprs ∧ columns.map (·.2) = columnNames ids labels

section
variable {i j : ℕ} {rest : List ℕ} {qs : List Quantity} (hf : Family.weather ∈ Family.all)
include hf

/-- A single station is read directly from its table. -/
theorem laidOut_singleton :
    LaidOut [i] qs
      (fun columns => (Family.weather.scan i (.time :: quotedFields columns)).inWindow.ordered)
      (qs.map fun q => (Family.weather.catalogEntry q).expr) := by
  intro labels hcheck hqs
  refine ⟨(channels labels).map fun c => ((Family.weather.catalogEntry c.quantity).expr,
    Family.weather.relation i ++ "." ++ Family.weather.channelLabel c), fun column hmem => ?_,
    ?_, ?_, ?_⟩
  · obtain ⟨c, hc, rfl⟩ := List.mem_map.1 hmem
    exact (Family.spelled_field hf (channel_of_check hcheck c hc).1.2).1
  · rw [temperatures, hcheck]
    refine Family.labelled_singleton_eq_ok_iff.2 ⟨fun c hc => (channel_of_check hcheck c hc).1.1,
      fun c hc => (channel_of_check hcheck c hc).1.2, ?_⟩
    simp only [quotedFields, List.map_map]
    rfl
  · rw [List.map_map, ← hqs, List.map_map]
    rfl
  · rw [List.map_map, columnNames, List.flatMap_singleton, ← map_channelLabel_channels,
      List.map_map]
    rfl

/-- Several stations are aligned. -/
theorem laidOut_aligned (hq : ∀ q ∈ qs.eraseDups, Family.weather.Declares q) :
    LaidOut (i :: j :: rest) qs
      (fun columns => ((Family.weather.aligned i (j :: rest) qs.eraseDups).compute
        (quotedFields columns)).statement)
      ((i :: j :: rest).flatMap fun id => qs.map fun q =>
        Family.weather.columnOf id (Family.weather.catalogEntry q)) := by
  intro labels hcheck hqs
  refine ⟨(i :: j :: rest).flatMap fun id => (channels labels).map fun c =>
    (Family.weather.columnOf id (Family.weather.catalogEntry c.quantity),
      Family.weather.relation id ++ "." ++ Family.weather.channelLabel c), fun column hmem => ?_,
    ?_, ?_, ?_⟩
  · obtain ⟨id, -, hmem⟩ := List.mem_flatMap.1 hmem
    obtain ⟨c, hc, rfl⟩ := List.mem_map.1 hmem
    exact Family.spelled_columnOf hf (Family.isWord_column hf (channel_of_check hcheck c hc).1.2)
  · rw [temperatures, hcheck]
    refine (Family.labelled_eq_ok_iff (by simp)).2 ⟨fun c hc => (channel_of_check hcheck c hc).1.1,
      Fallible.bind_eq_ok.2 ⟨_, PerDevice.alignment_eq_ok_iff.2 ⟨i, j :: rest, rfl, ?_, rfl⟩, ?_⟩⟩
    · rw [PerDevice.quantities, hqs]
      exact hq
    · rw [Fallible.pure_eq_ok, PerDevice.quantities, hqs]
      simp only [quotedFields, List.map_flatMap, List.map_map]
      rfl
  · rw [List.map_flatMap, ← hqs]
    simp only [List.map_map]
    rfl
  · rw [List.map_flatMap, columnNames, ← map_channelLabel_channels]
    simp only [List.map_map]
    rfl

end

/-- **The statement is a function of its columns**, whose expressions do not depend on the labels but
    for their positions. -/
theorem exists_laidOut (hids : ids ≠ []) {qs : List Quantity}
    (hd : ∀ q ∈ qs, Family.weather.Declares q) :
    ∃ k exprs, Quotes k (quotedNames ids) ∧ LaidOut ids qs k exprs := by
  have hf : Family.weather ∈ Family.all := by decide
  match ids, hids with
  | [i], _ => exact ⟨_, _, Family.quotes_scan hf, laidOut_singleton hf⟩
  | i :: j :: rest, _ =>
    have hq : ∀ q ∈ qs.eraseDups, Family.weather.Declares q := fun q h => hd q (List.mem_eraseDups.1 h)
    exact ⟨_, _, Alignment.quotes_statement (Family.spelled_aligned hf hq) rfl,
      laidOut_aligned hf hq⟩

/-- **Two labellings with labels at the same positions** give statements that are read alike but for
    the names, and the names are those of the columns. -/
theorem reads_temperatures (hids : ids ≠ []) (h : Labels.check labels = .ok ())
    (h' : Labels.check labels' = .ok ())
    (hshown : ∀ i, Labels.shownAt labels i = Labels.shownAt labels' i) :
    ∃ l l', Reads (temperatures ids labels) l ∧ Reads (temperatures ids labels') l' ∧
      l.map (Lexeme.without .name) = l'.map (Lexeme.without .name) ∧
        contents .name l = quotedNames ids (columnNames ids labels) ∧
          contents .name l' = quotedNames ids (columnNames ids labels') := by
  have hquantities : (channels labels').map (·.quantity) = (channels labels).map (·.quantity) := by
    rw [channels, channels, List.map_cons, List.map_cons,
      map_quantity_labelledChannels_congr (fun i => (hshown i).symm)]
  have hd : ∀ q ∈ (channels labels).map (·.quantity), Family.weather.Declares q := by
    intro q hq
    obtain ⟨c, hc, rfl⟩ := List.mem_map.1 hq
    exact (channel_of_check h c hc).1.2
  obtain ⟨k, exprs, ⟨written, hwritten⟩, hlayout⟩ := exists_laidOut hids hd
  have hread {ls : List String} (hcheck : Labels.check ls = .ok ())
      {columns : List (Expr × String)} (hplain : PlainColumns columns)
      (htemperatures : temperatures ids ls = .ok (k columns)) :
      Reads (temperatures ids ls) ((written columns).flatMap Token.lexemes) := by
    obtain ⟨s, hs, hspelled⟩ := composes_temperatures (N := fun _ => True) (L := fun _ => True) hids
      hcheck fun _ _ _ _ => trivial
    obtain rfl : s = k columns := Except.ok.inj (hs.symm.trans htemperatures)
    exact reads_of_tokens htemperatures hspelled (hwritten columns hplain).1
  obtain ⟨columns, hplain, hk, hexprs, hnames⟩ := hlayout labels h rfl
  obtain ⟨columns', hplain', hk', hexprs', hnames'⟩ := hlayout labels' h' hquantities
  have hpayload := (hwritten columns hplain).2.1
  have hpayload' := (hwritten columns' hplain').2.1
  rw [hnames] at hpayload
  rw [hnames'] at hpayload'
  exact ⟨_, _, hread h hplain hk, hread h' hplain' hk',
    (hwritten columns hplain).2.2 columns' hplain' (hexprs.trans hexprs'.symm), hpayload, hpayload'⟩

example : columnNames [7] ["", " attic "] = ["weather7.temp_c", "weather7.attic"] := by
  decide

end Weather

end EnergyQuery
