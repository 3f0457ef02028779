/-
  Free text does not change the structure of a statement.

  The step and the offset of buckets become literals.  Read back with the rules
  for literals, the statements over two kinds of buckets differ in the contents
  of these literals only, and the contents are the texts that were given.

  * `Buckets.literals`: the literals of a statement over buckets, in the order
    in which they are written;
  * `Buckets.outline_selected`, `Buckets.payload_selected`: the columns over
    buckets, part by part;
  * `freeText_keeps_structure`: the statements over buckets, and those with the
    labels of a weather station.
-/
import EnergyQuery.Proofs.Query.HouseSpelling
import EnergyQuery.Proofs.Query.Labelling

namespace EnergyQuery

open Sql

/-! ## Steps and offsets -/

section
variable {s t : String}

/-- An interval is its literal, after a word. -/
def interval (s : String) : List Lexeme :=
  others "INTERVAL " ++ [.quoted .literal s]

theorem readsAs_interval : ReadsAs (intervalText s) (interval s) := by
  have hliteral : ReadsAs (Text.quoteLiteral s) [.quoted .literal s] := readsAs_quoted .literal s
  exact hliteral.before (by decide)

theorem contents_interval : contents .literal (interval s) = [s] := by
  rw [interval, contents_append, contents_others, contents_quoted, if_pos rfl]
  rfl

/-- What is read after an instant to which an interval is added. -/
def plus (s : String) : List Lexeme :=
  others " + " ++ interval s

theorem contents_plus : contents .literal (plus s) = [s] := by
  rw [plus, contents_append, contents_others, contents_interval]
  rfl

theorem without_plus :
    (plus s).map (Lexeme.without .literal) = (plus t).map (Lexeme.without .literal) := by
  simp [plus, interval, Lexeme.without]

theorem readsAs_add {x : Expr} {l : List Lexeme} (h : ReadsAs x.text l) :
    ReadsAs (Expr.add x (.interval s)).text (l ++ plus s) := by
  have hadd : (Expr.add x (.interval s)).text = x.text ++ " + " ++ intervalText s := rfl
  rw [hadd, plus, ← List.append_assoc]
  exact h.join (by decide) (by decide) readsAs_interval

end

/-- The payload of a clause that is spelled without literals. -/
theorem payload_clause {c : Clause} (h : c.Spelled Unquoted) : payload .literal [.raw c.text] = [] :=
  payload_eq_nil (w := .selected) (.cons h.restated_token .nil)

namespace Buckets
variable {b b' : Buckets} {f : Family} {id : ℕ} {ids : List ℕ} {e : Entry} {q : Quantity}
  {fields : List Field} {x : Expr} {l l' : List Lexeme} {n : String}

/-! ### Instants -/

/-- The offset, if there is one. -/
def offsets (b : Buckets) : List String :=
  if b.offset.isEmpty then [] else [b.offset]

/-- What an offset adds to an instant. -/
def shift (b : Buckets) : List Lexeme :=
  if b.offset.isEmpty then [] else plus b.offset

theorem contents_shift : contents .literal b.shift = b.offsets := by
  unfold shift offsets
  split
  · rfl
  · exact contents_plus

theorem without_shift (h : b.offset.isEmpty = b'.offset.isEmpty) :
    b.shift.map (Lexeme.without .literal) = b'.shift.map (Lexeme.without .literal) := by
  unfold shift
  rw [h]
  split
  · rfl
  · exact without_plus

theorem readsAs_shifted (h : ReadsAs x.text l) : ReadsAs (b.shifted x).text (l ++ b.shift) := by
  unfold shifted shift
  split
  · simpa using h
  · exact readsAs_add h

/-- An instant is not named as it is written, since it begins with the boundary. -/
theorem isBare_shifted (h : ∃ r, x.text = boundary ++ r) (hn : n.toList.head? ≠ some 'b') :
    Field.isBare ⟨b.shifted x, .plain n⟩ = false := by
  obtain ⟨r, hr⟩ := h
  have hshifted : ∃ r', (b.shifted x).text = boundary ++ r' := by
    unfold shifted
    split
    · exact ⟨r, hr⟩
    · have hadd : (Expr.add x (.interval b.offset)).text =
          x.text ++ (" + " ++ intervalText b.offset) := String.append_assoc ..
      exact ⟨r ++ (" + " ++ intervalText b.offset), by rw [hadd, hr, String.append_assoc]⟩
  obtain ⟨r', hr'⟩ := hshifted
  rw [Field.isBare, beq_eq_false_iff_ne]
  intro heq
  have hname : n = boundary ++ r' := heq.symm.trans hr'
  exact hn (by simp [hname, boundary])

section
variable (hx : ReadsAs x.text l) (hbegin : ∃ r, x.text = boundary ++ r) (hn : IsWord n)
  (hhead : n.toList.head? ≠ some 'b')
include hx hbegin hhead

theorem outline_shifted :
    outline .literal (⟨b.shifted x, .plain n⟩ : Sql.Field).tokens =
      l.map (Lexeme.without .literal) ++ b.shift.map (Lexeme.without .literal) ++
        outline .literal [.space, .kwAs, .space, .raw n] := by
  have htokens : (⟨b.shifted x, .plain n⟩ : Sql.Field).tokens =
      [.raw (b.shifted x).text] ++ [.space, .kwAs, .space, .raw n] :=
    Field.tokens_eq (isBare_shifted hbegin hhead)
  rw [htokens, outline_append, outline_raw (readsAs_shifted hx), List.map_append]

include hn in
theorem payload_shifted :
    payload .literal (⟨b.shifted x, .plain n⟩ : Sql.Field).tokens =
      contents .literal l ++ b.offsets := by
  have htokens : (⟨b.shifted x, .plain n⟩ : Sql.Field).tokens =
      [.raw (b.shifted x).text] ++ [.space, .kwAs, .space] ++ [.raw n] :=
    Field.tokens_eq (isBare_shifted hbegin hhead)
  have has : payload .literal [.space, .kwAs, .space] = [] := payload_of_fixed (by decide)
  rw [htokens, payload_append, payload_append, payload_raw (readsAs_shifted hx), contents_append,
    contents_shift, has, payload_raw_of_delimiterFree hn.ordinary.delimiterFree, List.append_nil,
    List.append_nil]

end

/-- The boundary, as it is read. -/
def atBoundary : List Lexeme :=
  others boundary

theorem readsAs_boundary : ReadsAs (Expr.column boundary).text atBoundary :=
  readsAs_of_delimiterFree (by decide : DelimiterFree boundary.toList)

theorem payload_instant : payload .literal b.instant.tokens = b.offsets := by
  have hpayload : payload .literal b.instant.tokens = _ :=
    payload_shifted readsAs_boundary ⟨"", rfl⟩ (by decide : IsWord timeColumn) (by decide)
  rw [hpayload, atBoundary, contents_others, List.nil_append]

theorem outline_instant (h : b.offset.isEmpty = b'.offset.isEmpty) :
    outline .literal b.instant.tokens = outline .literal b'.instant.tokens := by
  have houtline (b : Buckets) : outline .literal b.instant.tokens = _ :=
    outline_shifted readsAs_boundary ⟨"", rfl⟩ (by decide)
  rw [houtline, houtline, without_shift h]

/-- The following boundary, as it is read. -/
theorem readsAs_following :
    ReadsAs (Expr.add (.column boundary) (.interval b.step)).text (atBoundary ++ plus b.step) :=
  readsAs_add readsAs_boundary

theorem exists_following : ∃ r,
    (Expr.add (.column boundary) (.interval b.step)).text = boundary ++ r :=
  ⟨" + " ++ intervalText b.step, String.append_assoc ..⟩

theorem payload_nextInstant : payload .literal b.nextInstant.tokens = b.step :: b.offsets := by
  have hpayload : payload .literal b.nextInstant.tokens = _ :=
    payload_shifted readsAs_following exists_following (by decide : IsWord nextColumn) (by decide)
  rw [hpayload, contents_append, atBoundary, contents_others, contents_plus]
  rfl

theorem outline_nextInstant (h : b.offset.isEmpty = b'.offset.isEmpty) :
    outline .literal b.nextInstant.tokens = outline .literal b'.nextInstant.tokens := by
  have houtline (b : Buckets) : outline .literal b.nextInstant.tokens = _ :=
    outline_shifted readsAs_following exists_following (by decide)
  rw [houtline, houtline, without_shift h, List.map_append, List.map_append, without_plus]

/-! ### The series of boundaries -/

section
variable {unit step step' : String}

/-- What stands before the unit of the series. -/
def opening : String :=
  "GENERATE_SERIES(DATE_TRUNC("

/-- What stands between the unit of the series and its step. -/
def bounds : String :=
  ", " ++ Window.selected.start ++ "::timestamptz), " ++ Window.selected.stop ++
    "::timestamptz, " ++ "INTERVAL "

/-- What stands after the step of the series. -/
def closing : String :=
  ") AS " ++ boundary

/-- The series of boundaries. -/
def seriesText (unit step : String) : String :=
  opening ++ (Text.quoteLiteral unit ++ bounds ++ Text.quoteLiteral step ++ closing)

/-- The series of boundaries, as it is read. -/
def series (unit step : String) : List Lexeme :=
  others opening ++ ([.quoted .literal unit] ++ others bounds ++
    [.quoted .literal step] ++ others closing)

theorem readsAs_series : ReadsAs (seriesText unit step) (series unit step) := by
  have hunit : ReadsAs (Text.quoteLiteral unit) [.quoted .literal unit] := readsAs_quoted .literal _
  have hstep : ReadsAs (Text.quoteLiteral step) [.quoted .literal step] := readsAs_quoted .literal _
  exact ((hunit.join (by decide) (by decide) hstep).after (by decide) (by decide)).before (by decide)

theorem contents_series : contents .literal (series unit step) = [unit, step] := by
  rw [series, contents_append, contents_append, contents_append, contents_append, contents_others,
    contents_others, contents_others, contents_quoted, contents_quoted, if_pos rfl, if_pos rfl]
  rfl

theorem without_series : (series unit step).map (Lexeme.without .literal) =
    (series unit step').map (Lexeme.without .literal) := by
  have hstep : [Lexeme.quoted .literal step].map (Lexeme.without .literal) =
      [Lexeme.quoted .literal step'].map (Lexeme.without .literal) := rfl
  rw [series, series, List.map_append, List.map_append, List.map_append, List.map_append, hstep,
    ← List.map_append, ← List.map_append, ← List.map_append, ← List.map_append]

end

theorem tokens_source : (Source.buckets b.unit b.step .selected boundary).tokens =
    [.raw (seriesText b.unit.name b.step)] := by
  have htext : (Source.buckets b.unit b.step .selected boundary).tokens =
      [.raw (opening ++ Text.quoteLiteral b.unit.name ++ ", " ++ Window.selected.start ++
        "::timestamptz), " ++ Window.selected.stop ++ "::timestamptz, " ++
          ("INTERVAL " ++ Text.quoteLiteral b.step) ++ ") AS " ++ boundary)] := rfl
  rw [htext]
  simp only [seriesText, bounds, closing, String.append_assoc]

/-! ### The statements -/

/-- The columns of the buckets. -/
theorem payload_fields : (b.statement.fields.flatMap fun f => payload .literal f.tokens) =
    b.offsets ++ if b.hasNext then b.step :: b.offsets else [] := by
  rw [statement, List.flatMap_cons, payload_instant]
  split
  · rw [List.flatMap_singleton, payload_nextInstant]
  · rfl

theorem outline_fields (h : b.offset.isEmpty = b'.offset.isEmpty) (hnext : b.hasNext = b'.hasNext) :
    (b.statement.fields.map fun f => outline .literal f.tokens) =
      b'.statement.fields.map fun f => outline .literal f.tokens := by
  rw [statement, statement, List.map_cons, List.map_cons, outline_instant h, hnext]
  split
  · rw [List.map_singleton, List.map_singleton, outline_nextInstant h]
  · rfl

/-- The tokens of the buckets. -/
def written (b : Buckets) : List Token :=
  selectTokens b.statement.fields (some [.raw (seriesText b.unit.name b.step)]) [] []

theorem tokens_statement : b.statement.tokens = .ok b.written := by
  rw [written, ← tokens_source]
  rfl

theorem payload_written : payload .literal b.written =
    b.offsets ++ (if b.hasNext then b.step :: b.offsets else []) ++ [b.unit.name, b.step] := by
  have hrest : payload .literal (selectTokens [] none [] []) = [] :=
    payload_rest (by simp) (by simp)
  rw [written, payload_selectTokens, payload_fields, Option.elim_some, payload_raw readsAs_series,
    contents_series, hrest, List.append_nil]

theorem outline_written (hunit : b.unit = b'.unit) (hnext : b.hasNext = b'.hasNext)
    (h : b.offset.isEmpty = b'.offset.isEmpty) :
    outline .literal b.written = outline .literal b'.written := by
  refine outline_selectTokens (outline_fields h hnext) ?_
  rw [Option.map_some, Option.map_some, outline_raw readsAs_series, outline_raw readsAs_series, hunit,
    without_series]

/-- The tokens of the staged readings. -/
def stageTokens (b : Buckets) (f : Family) (e : Entry) (id : ℕ) : List Token :=
  selectTokens (b.stage f id e).fields (some [.raw f.table]) [] (b.stage f id e).clauses

theorem tokens_stage : (b.stage f id e).tokens = .ok (b.stageTokens f e id) :=
  rfl

/-- The readings are staged for the instants that the buckets look up, whatever these are. -/
theorem stageTokens_congr (hnext : b.hasNext = b'.hasNext) :
    b.stageTokens f e id = b'.stageTokens f e id := by
  rw [stageTokens, stageTokens, stage, stage, edge, edge, hnext]

theorem payload_truncated : payload .literal
    (⟨.truncated .hour (.column timeColumn), timeColumn⟩ : Sql.Field).tokens = ["hour"] := by
  have htokens : (⟨.truncated .hour (.column timeColumn), timeColumn⟩ : Sql.Field).tokens =
      [.raw ("DATE_TRUNC(" ++ (Text.quoteLiteral "hour" ++ ", time)"))] ++
        [.space, .kwAs, .space, .raw timeColumn] := by decide
  have hread : ReadsAs (Text.quoteLiteral "hour") [.quoted .literal "hour"] :=
    readsAs_quoted .literal _
  have hname : payload .literal [.space, .kwAs, .space, .raw timeColumn] = [] :=
    payload_eq_nil (w := .selected) (restated_of_ordinary (by decide))
  rw [htokens, payload_append, hname,
    payload_raw ((hread.after (by decide) (by decide)).before (by decide)), contents_append,
    contents_append, contents_others, contents_others, contents_quoted, if_pos rfl]
  rfl

theorem payload_beforeLast :
    payload .literal [.raw (Clause.beforeLast relation b.edge "1 hour").text] = ["1 hour"] := by
  have hordinary : Ordinary (timeColumn ++ " < (SELECT MAX(" ++ b.edge ++ ") FROM " ++ relation ++
      ") + ") :=
    ((((by decide : Ordinary (timeColumn ++ " < (SELECT MAX(")).append isWord_edge.ordinary).append
      (by decide)).append (by decide)).append (by decide)
  have hread : ReadsAs (Clause.beforeLast relation b.edge "1 hour").text _ :=
    readsAs_interval.before hordinary.delimiterFree
  rw [payload_raw hread, contents_append, contents_others, contents_interval]
  rfl

/-- The unit of the staged readings, and the margin of their span. -/
theorem payload_stage (hf : f ∈ Family.all) (he : e ∈ f.catalog) :
    payload .literal (b.stageTokens f e id) = ["hour", "1 hour"] := by
  have hmax : payload .literal (⟨.max e.expr, e.column⟩ : Sql.Field).tokens = [] :=
    payload_field (not_admits_unquoted .literal)
      ⟨Family.spelled_entry f hf e he, Family.isWord_entry f hf e he⟩
  have htable : payload .literal [.raw f.table] = [] :=
    payload_raw_of_delimiterFree (Family.isWord_names f hf).2.ordinary.delimiterFree
  have hclauses : payload .literal (selectTokens [] none [] (b.stage f id e).clauses) =
      ["1 hour"] := by
    have hlist : (b.stage f id e).clauses = [.device id, .conjunction, .fromFirst relation,
      .conjunction, .beforeLast relation b.edge "1 hour", .groupedByFirst] := rfl
    have hword : IsWord relation := by decide
    rw [payload_clauses, hlist]
    simp only [List.flatMap_cons, List.flatMap_nil, payload_beforeLast,
      payload_clause (c := .device id) trivial, payload_clause (c := .conjunction) trivial,
      payload_clause (c := .fromFirst relation) hword,
      payload_clause (c := .groupedByFirst) trivial, List.nil_append, List.append_nil]
  have hfields : (b.stage f id e).fields =
    [⟨.truncated .hour (.column timeColumn), timeColumn⟩, ⟨.max e.expr, e.column⟩] := rfl
  rw [stageTokens, payload_selectTokens, hclauses, hfields, List.flatMap_cons, List.flatMap_singleton,
    payload_truncated, hmax, Option.elim_some, htable]
  rfl

/-- The literals of the statements over buckets, in the order in which they are written. -/
def literals (b : Buckets) (ids : List ℕ) : List String :=
  b.offsets ++ (if b.hasNext then b.step :: b.offsets else []) ++ [b.unit.name, b.step] ++
    ids.flatMap fun _ => ["hour", "1 hour"]

/-- The tokens of columns over the buckets and the staged readings. -/
def selectedTokens (b : Buckets) (f : Family) (ids : List ℕ) (e : Entry) (fields : List Sql.Field) :
    List Token :=
  withTokens (cteTokens relation b.written ::
      ids.map fun id => cteTokens (f.relation id) (b.stageTokens f e id)) ++
    selectTokens (b.selected f ids e fields).fields (some [.raw relation])
      (b.selected f ids e fields).joins (b.selected f ids e fields).clauses

theorem tokens_selected :
    (b.selected f ids e fields).tokens = .ok (b.selectedTokens f ids e fields) := by
  have htokens : (b.selected f ids e fields).tokens =
      (Statement.ctesTokens (b.stages f ids e)).bind fun staged =>
        .ok (withTokens staged ++ selectTokens (b.selected f ids e fields).fields
          (some [.raw relation]) (b.selected f ids e fields).joins
          (b.selected f ids e fields).clauses) := rfl
  have hstaged : Statement.ctesTokens (b.stages f ids e) = .ok (cteTokens relation b.written ::
      ids.map fun id => cteTokens (f.relation id) (b.stageTokens f e id)) := by
    rw [stages, Statement.ctesTokens, tokens_statement,
      ctesTokens_map (n := f.relation) (fun _ _ => rfl) fun _ _ => tokens_stage]
    rfl
  rw [htokens, hstaged]
  rfl

/-- **The literals are those of the buckets and of the staged readings.** -/
theorem payload_selected (hf : f ∈ Family.all) (he : e ∈ f.catalog)
    (hfields : ∀ x ∈ fields, x.Spelled (fun _ => True) Unquoted) :
    payload .literal (b.selectedTokens f ids e fields) = b.literals ids := by
  have hword : IsWord relation := by decide
  have htime : (⟨.ref relation timeColumn, timeColumn⟩ : Sql.Field).Spelled (fun _ => True) Unquoted :=
    ⟨⟨hword, (by decide : IsWord timeColumn)⟩, (by decide : IsWord timeColumn)⟩
  have hselect : ((b.selected f ids e fields).fields.flatMap fun x => payload .literal x.tokens) =
      [] := by
    refine List.flatMap_eq_nil_iff.2 fun x hx => ?_
    rcases List.mem_cons.1 hx with rfl | hx
    · exact payload_field (fun _ h => h) htime
    · exact payload_field (fun _ h => h) (hfields x hx)
  have hrelation : payload .literal [.raw relation] = [] :=
    payload_raw_of_delimiterFree hword.ordinary.delimiterFree
  have hrest : payload .literal (selectTokens [] none (b.selected f ids e fields).joins
      (b.selected f ids e fields).clauses) = [] := by
    refine payload_rest (fun j hj => ?_) fun c hc => ?_
    · obtain ⟨id, -, hj⟩ := List.mem_flatMap.1 hj
      exact spelled_lookups hf j hj
    · obtain rfl | rfl : c = .timePresent (some relation) ∨ c = .orderedByTime := by
        simpa [selected] using hc
      · exact hword
      · trivial
  -- Literals stand in the steps of the buckets and in the truncation of every stage, nowhere else.
  have hbuckets : payload .literal (cteTokens relation b.written) = payload .literal b.written :=
    payload_cteTokens hword
  have hstage (id : ℕ) : payload .literal (cteTokens (f.relation id) (b.stageTokens f e id)) =
      ["hour", "1 hour"] := by
    rw [payload_cteTokens (Family.isWord_relation hf), payload_stage hf he]
  rw [selectedTokens, payload_append, payload_withTokens, List.flatMap_cons, List.flatMap_map,
    payload_selectTokens, hselect, Option.elim_some, hrelation, hrest, List.append_nil,
    List.append_nil, List.append_nil, hbuckets, payload_written, literals]
  simp only [hstage]

example : daily.literals [3] =
    ["12 hours", "1 day", "12 hours", "day", "1 day", "hour", "1 hour"] := by
  decide

theorem outline_selected (hunit : b.unit = b'.unit) (hnext : b.hasNext = b'.hasNext)
    (h : b.offset.isEmpty = b'.offset.isEmpty) :
    outline .literal (b.selectedTokens f ids e fields) =
      outline .literal (b'.selectedTokens f ids e fields) := by
  have hstage (id : ℕ) : b.stageTokens f e id = b'.stageTokens f e id := stageTokens_congr hnext
  have hjoins : (b.selected f ids e fields).joins = (b'.selected f ids e fields).joins := by
    refine List.flatMap_congr fun id _ => ?_
    rw [lookups, lookups, hnext]
  have hbuckets : outline .literal (cteTokens relation b.written) =
      outline .literal (cteTokens relation b'.written) :=
    outline_cteTokens (outline_written hunit hnext h)
  simp only [selectedTokens, outline_append, hstage, hjoins]
  refine congrArg₂ _ (outline_withTokens ?_) rfl
  rw [List.map_cons, List.map_cons, hbuckets]

/-- The columns of every statement over buckets are spelled without literals, and do not depend on
    the texts of the buckets. -/
theorem exists_selected {build : Buckets → Family → List ℕ → Quantity → Composed Statement}
    (hbuild : build ∈ [totalEach, total, readings]) (hf : f ∈ Family.all) {s : Statement}
    (hs : build b f ids q = .ok s) :
    ∃ e ∈ f.catalog, ∃ fields, (∀ L, ∀ x ∈ fields, x.Spelled (fun _ => True) L) ∧
      ∀ b', b'.hasNext = b.hasNext → build b' f ids q = .ok (b'.selected f ids e fields) := by
  have hnames {a l : String} : Name.Spelled (fun _ => True) (.quoted (a ++ "." ++ l)) := trivial
  obtain rfl | rfl | rfl : build = totalEach ∨ build = total ∨ build = readings := by
    simpa using hbuild
  · obtain ⟨hb, c, hc, hdc, hd, hids, rfl⟩ := totalEach_eq_ok_iff.1 hs
    refine ⟨_, Family.catalogEntry_mem hdc, _, fun L x hx => ?_, fun b' hnext =>
      totalEach_eq_ok_iff.2 ⟨hnext.trans hb, c, hc, hdc, hd, hids, rfl⟩⟩
    obtain ⟨id, -, rfl⟩ := List.mem_map.1 hx
    exact ⟨spelled_difference hf (Family.isWord_column hf hdc), hnames⟩
  · obtain ⟨hb, c, hc, hdc, hd, hids, rfl⟩ := total_eq_ok_iff.1 hs
    refine ⟨_, Family.catalogEntry_mem hdc, _, fun L x hx => ?_, fun b' hnext =>
      total_eq_ok_iff.2 ⟨hnext.trans hb, c, hc, hdc, hd, hids, rfl⟩⟩
    obtain rfl := List.mem_singleton.1 hx
    refine ⟨Expr.spelled_sum (by simpa using hids) fun y hy => ?_, hnames⟩
    obtain ⟨id, -, rfl⟩ := List.mem_map.1 hy
    exact spelled_difference hf (Family.isWord_column hf hdc)
  · obtain ⟨hq, hd, hids, rfl⟩ := readings_eq_ok_iff.1 hs
    refine ⟨_, Family.catalogEntry_mem hd, _, fun L x hx => ?_, fun b' _ =>
      readings_eq_ok_iff.2 ⟨hq, hd, hids, rfl⟩⟩
    obtain ⟨id, -, rfl⟩ := List.mem_map.1 hx
    exact ⟨⟨isWord_startOf hf, Family.isWord_column hf hd⟩, hnames⟩

end Buckets

/-- **Free text cannot change the structure of a statement.**  For two labellings of the weather
    stations with labels at the same positions, and for two kinds of buckets that differ in their
    steps and offsets, the statements are read as the same lexemes but for the contents of the quoted
    names, or of the literals, and these are the texts that were given. -/
theorem freeText_keeps_structure :
    (∀ ids : List ℕ, ids ≠ [] → ∀ labels labels' : List String,
      Labels.check labels = .ok () → Labels.check labels' = .ok () →
      (∀ i, Labels.shownAt labels i = Labels.shownAt labels' i) →
        ∃ l l', Reads (Weather.temperatures ids labels) l ∧
          Reads (Weather.temperatures ids labels') l' ∧
            l.map (Lexeme.without .name) = l'.map (Lexeme.without .name) ∧
              contents .name l = Weather.quotedNames ids (Weather.columnNames ids labels) ∧
                contents .name l' = Weather.quotedNames ids (Weather.columnNames ids labels')) ∧
      ∀ f ∈ Family.all, ∀ build ∈ [Buckets.totalEach, Buckets.total, Buckets.readings],
        ∀ (b b' : Buckets) (ids : List ℕ) (q : Quantity) (s : Statement),
          b.unit = b'.unit → b.hasNext = b'.hasNext → b.offset.isEmpty = b'.offset.isEmpty →
          build b f ids q = .ok s →
            ∃ l l', Reads (build b f ids q) l ∧ Reads (build b' f ids q) l' ∧
              l.map (Lexeme.without .literal) = l'.map (Lexeme.without .literal) ∧
                contents .literal l = b.literals ids ∧ contents .literal l' = b'.literals ids := by
  refine ⟨fun ids hids labels labels' => Weather.reads_temperatures hids,
    fun f hf build hbuild b b' ids q s hunit hnext hoffset hs => ?_⟩
  obtain ⟨e, he, fields, hfields, hselected⟩ := Buckets.exists_selected hbuild hf hs
  have hreads {x : Buckets} (hx : x.hasNext = b.hasNext) :
      Reads (build x f ids q) ((x.selectedTokens f ids e fields).flatMap Token.lexemes) := by
    have hspelled : (x.selected f ids e fields).Spelled (fun _ => True) fun _ => True :=
      Buckets.spelled_selected ⟨fun _ _ => trivial, fun _ _ => trivial⟩
        ⟨trivial, trivial, fun _ => trivial⟩ hf he (hfields _)
    exact reads_of_tokens (hselected x hx) hspelled Buckets.tokens_selected
  exact ⟨_, _, hreads rfl, hreads hnext.symm, Buckets.outline_selected hunit hnext hoffset,
    Buckets.payload_selected hf he (hfields _), Buckets.payload_selected hf he (hfields _)⟩

/-- Labels and offsets that try to close what they are quoted with. -/
theorem freeText_keeps_structure_intrusive :
    (∃ l l', Reads (Weather.temperatures [1, 2] ["a\" FROM solar --", " ", "'b'\n(\"\"" ]) l ∧
      Reads (Weather.temperatures [1, 2] ["attic", "", " cellar "]) l' ∧
        l.map (Lexeme.without .name) = l'.map (Lexeme.without .name) ∧
          contents .name l = Weather.quotedNames [1, 2]
            (Weather.columnNames [1, 2] ["a\" FROM solar --", " ", "'b'\n(\"\"" ]) ∧
          contents .name l' = Weather.quotedNames [1, 2]
            (Weather.columnNames [1, 2] ["attic", "", " cellar "])) ∧
      ∃ l l', Reads (Buckets.daily.total .solar [1, 2] .windowEnergy) l ∧
        Reads (Buckets.total ⟨.day, "1 day'); --", "'", true⟩ .solar [1, 2] .windowEnergy) l' ∧
          l.map (Lexeme.without .literal) = l'.map (Lexeme.without .literal) ∧
            contents .literal l = Buckets.daily.literals [1, 2] ∧
              contents .literal l' =
                Buckets.literals ⟨.day, "1 day'); --", "'", true⟩ [1, 2] := by
  refine ⟨freeText_keeps_structure.1 [1, 2] (by simp) _ _ rfl rfl fun i => ?_,
    freeText_keeps_structure.2 .solar (by decide) Buckets.total (by simp) _ _ [1, 2] .windowEnergy _
      rfl rfl rfl rfl⟩
  match i with
  | 0 | 1 | 2 => rfl
  | i + 3 => rfl

end EnergyQuery
