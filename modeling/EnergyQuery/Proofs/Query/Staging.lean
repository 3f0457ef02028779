/-
  What is staged for columns that are asked for one after the other.

  The quantities are staged without repetitions while every call has its column,
  so that the two are accumulated in different ways.

  * `FirstMentions mentioned qs`: `qs` are the quantities mentioned, each once, in
    the order in which they are first mentioned;
  * `Expr.Reads`: the columns that an expression reads, those in a text from
    outside included;
  * `Alignment.StagesExactly`: one scan for each device with exactly the
    quantities mentioned, which is all that the computed columns read;
  * `staging_exact`: so it is after any sequence of calls.
-/
import EnergyQuery.Proofs.Query.CombinedColumns
import EnergyQuery.Proofs.Query.SingleDevice

namespace EnergyQuery

open Sql

/-! ## Quantities in the order of their first mention -/

/-- The quantities mentioned, each once, an earlier mentioned one before a later. -/
structure FirstMentions (mentioned qs : List Quantity) : Prop where
  mem_iff : ∀ q, q ∈ qs ↔ q ∈ mentioned
  nodup : qs.Nodup
  inOrder : qs.Pairwise fun p q => mentioned.idxOf p < mentioned.idxOf q

theorem firstMentions_eraseDups (mentioned : List Quantity) :
    FirstMentions mentioned mentioned.eraseDups := by
  refine ⟨fun q => List.mem_eraseDups, nodup_eraseDups mentioned, ?_⟩
  -- The induction is on the last mention, which moves no earlier one.
  induction mentioned using List.reverseRecOn with
  | nil => exact List.Pairwise.nil
  | append_singleton mentioned q ih =>
    have hplace {p : Quantity} (hp : p ∈ mentioned.eraseDups) :
        (mentioned ++ [q]).idxOf p = mentioned.idxOf p :=
      List.idxOf_append_of_mem (List.mem_eraseDups.1 hp)
    have hbefore : mentioned.eraseDups.Pairwise fun p r =>
        (mentioned ++ [q]).idxOf p < (mentioned ++ [q]).idxOf r := by
      refine ih.imp_of_mem fun hp hr hlt => ?_
      rwa [hplace hp, hplace hr]
    rw [eraseDups_concat]
    split_ifs with hq
    · rwa [List.append_nil]
    · refine List.pairwise_append.2 ⟨hbefore, List.pairwise_singleton _ _, fun p hp r hr => ?_⟩
      obtain rfl := List.mem_singleton.1 hr
      rw [hplace hp, List.idxOf_append_of_notMem hq, List.idxOf_cons_self, Nat.add_zero]
      exact List.idxOf_lt_length_of_mem (List.mem_eraseDups.1 hp)

/-! ## Columns that an expression reads -/

/-- The expression reads the column `n` of the relation `r`; a text from outside does so if
    `r.n` occurs in it. -/
def Sql.Expr.Reads (r n : String) : Expr → Prop
  | verbatim t => (r ++ "." ++ n).toList <:+: t.toList
  | ref s m => s = r ∧ m = n
  | firstOf rs m => r ∈ rs ∧ m = n
  | add e e' | sub e e' | mul e e' | div e e' | flagAbove e e' => e.Reads r n ∨ e'.Reads r n
  | neg e | max e | min e | orZero e | positivePart e | nullIfZero e | truncated _ e | compact e =>
    e.Reads r n
  | column _ | number _ _ | interval _ => False

section
variable {r n : String}

theorem Sql.Expr.reads_foldl_extend {terms : List (Sign × Expr)} {total : Expr}
    (h : (terms.foldl (fun total t => t.1.extend total t.2) total).Reads r n) :
    total.Reads r n ∨ ∃ t ∈ terms, t.2.Reads r n := by
  induction terms generalizing total with
  | nil => exact .inl h
  | cons t terms ih =>
    rcases ih h with hextend | ⟨u, hu, hread⟩
    · have hsplit : total.Reads r n ∨ t.2.Reads r n := by
        obtain ⟨sign, e⟩ := t
        cases sign <;> exact hextend
      exact hsplit.imp_right fun ht => ⟨t, List.mem_cons_self, ht⟩
    · exact .inr ⟨u, List.mem_cons_of_mem t hu, hread⟩

/-- A sum reads what its terms read. -/
theorem Sql.Expr.reads_sum {es : List Expr} (hne : es ≠ []) (h : (Expr.sum es).Reads r n) :
    ∃ e ∈ es, e.Reads r n := by
  obtain ⟨e, es, rfl⟩ := List.exists_cons_of_ne_nil hne
  rcases reads_foldl_extend h with hlead | ⟨t, ht, hread⟩
  · exact ⟨e, List.mem_cons_self, hlead⟩
  · obtain ⟨e', he', rfl⟩ := List.mem_map.1 ht
    exact ⟨e', List.mem_cons_of_mem e he', hread⟩

namespace Family
variable {f : Family} {id : ℕ} {ids rest : List ℕ} {e : Entry} {threshold : Expr}

theorem reads_sumOf (hids : ids ≠ []) (h : (f.sumOf ids e).Reads r n) :
    ∃ i ∈ ids, f.relation i = r ∧ e.column = n := by
  match ids, hids, h with
  | [i], _, h => exact ⟨i, by simp, h⟩
  | i :: j :: rest, _, h =>
    obtain ⟨x, hx, hread⟩ := Expr.reads_sum (by simp) h
    obtain ⟨k, hk, rfl⟩ := List.mem_map.1 hx
    exact ⟨k, hk, hread⟩

/-- An average reads what its sum reads, and its threshold. -/
theorem reads_averageOf (hids : ids ≠ []) (h : (f.averageOf ids e threshold).Reads r n) :
    (∃ i ∈ ids, f.relation i = r ∧ e.column = n) ∨ threshold.Reads r n := by
  match ids, hids, h with
  | [i], _, h => exact .inl ⟨i, by simp, h⟩
  | i :: j :: rest, _, h =>
    rcases h with hsum | hcount
    · exact .inl (reads_sumOf (by simp) hsum)
    · obtain ⟨x, hx, hread⟩ := Expr.reads_sum (by simp) hcount
      obtain ⟨k, hk, rfl⟩ := List.mem_map.1 hx
      exact hread.imp_left fun hcolumn => ⟨k, hk, hcolumn⟩

end Family
end

/-! ## Exact staging -/

/-- One scan for each device in order, which selects the time and then every quantity mentioned,
    once and in the order of first mention.  Each column that is read is one of these, or read
    by `Outside`. -/
structure Alignment.StagesExactly (a : Alignment) (f : Family) (ids : List ℕ)
    (mentioned : List Quantity) (Outside : String → String → Prop) : Prop where
  staged : ∃ qs, FirstMentions mentioned qs ∧ a.staged = ids.map fun id =>
    (f.scan id (.time :: qs.map fun q => (f.catalogEntry q).field)).inWindow
  reads : ∀ x ∈ a.inner.fields, ∀ r n, x.expr.Reads r n → Offers a.staged r n ∨ Outside r n

section
variable {f : Family} {id : ℕ} {ids rest : List ℕ} {mentioned : List Quantity}
  {fields : List Field} {Outside : String → String → Prop}

/-- Where nothing is read outside, what is staged is all that is read. -/
theorem Alignment.StagesExactly.of_not_outside {a : Alignment}
    (h : a.StagesExactly f ids mentioned Outside) (hnone : ∀ r n, ¬Outside r n) :
    a.StagesExactly f ids mentioned fun _ _ => False where
  staged := h.staged
  reads x hx r n hread := (h.reads x hx r n hread).imp_right (hnone r n)

theorem offers_time {i : ℕ} {qs : List Quantity} (hi : i ∈ ids) :
    Offers (ids.map (f.staged qs)) (f.relation i) timeColumn := by
  refine ⟨_, List.mem_map_of_mem hi, rfl, ?_⟩
  rw [Family.columns_staged]
  exact List.mem_cons_self

theorem reads_timeOf {anchor r n : String} {others : List String}
    (h : (timeOf anchor others).expr.Reads r n) : r ∈ anchor :: others ∧ n = timeColumn := by
  cases others with
  | nil =>
    obtain ⟨rfl, rfl⟩ := h
    exact ⟨List.mem_cons_self, rfl⟩
  | cons => exact ⟨h.1, h.2.symm⟩

/-- **An alignment stages exactly what is mentioned** if its computed columns read no more. -/
theorem Family.stagesExactly_aligned
    (h : ∀ x ∈ fields, ∀ r n, x.expr.Reads r n →
      (∃ i ∈ id :: rest, ∃ q ∈ mentioned, f.relation i = r ∧ (f.catalogEntry q).column = n) ∨
        Outside r n) :
    ((f.aligned id rest mentioned.eraseDups).compute fields).StagesExactly f (id :: rest)
      mentioned Outside where
  staged := ⟨_, firstMentions_eraseDups mentioned, rfl⟩
  reads x hx r n hread := by
    rcases List.mem_cons.1 hx with rfl | hx
    · obtain ⟨hr, rfl⟩ := reads_timeOf hread
      have hr : r ∈ (id :: rest).map f.relation := hr
      obtain ⟨i, hi, rfl⟩ := List.mem_map.1 hr
      exact .inl (offers_time hi)
    · refine (h x hx r n hread).imp_left ?_
      rintro ⟨i, hi, q, hq, rfl, rfl⟩
      exact Family.offers_aligned hi (List.mem_eraseDups.2 hq)

end

/-! ## Sequences of calls -/

namespace PerDevice
variable {f : Family} {ids : List ℕ} {channels : List Channel}

/-- **After any choice of channels** there is one column for each device and channel. -/
theorem exists_stagesExactly (hids : ids ≠ [])
    (h : ∀ c ∈ channels, f.Declares c.quantity ∧ c.quantity.isWindowTotal = false) :
    ∃ p a, channels.foldlM choose { family := f, ids := ids } = .ok p ∧ p.alignment = .ok a ∧
      a.StagesExactly f ids (channels.map (·.quantity)) (fun _ _ => False) ∧
      a.fields = ids.flatMap fun id => channels.map fun c =>
        f.deviceField id (f.catalogEntry c.quantity) c.label := by
  obtain ⟨id, rest, rfl⟩ := List.exists_cons_of_ne_nil hids
  have hchosen : channels.foldlM choose { family := f, ids := id :: rest } =
      .ok { family := f, ids := id :: rest, channels := channels } :=
    foldlM_choose_eq_ok_iff.2 ⟨fun c hc => (h c hc).2, rfl⟩
  have halignment := alignment_eq_ok_iff (p := ⟨f, id :: rest, channels⟩) |>.2
    ⟨id, rest, rfl, declares_quantities_iff.2 fun c hc => (h c hc).1, rfl⟩
  refine ⟨_, _, hchosen, halignment, Family.stagesExactly_aligned fun x hx r n hread => ?_, rfl⟩
  obtain ⟨i, hi, c, hc, rfl⟩ := Family.mem_fields_iff.1 hx
  exact .inl ⟨i, hi, c.quantity, List.mem_map_of_mem hc, hread⟩

end PerDevice

namespace Combined
variable {f : Family} {ids : List ℕ} {call : Call} {calls : List Call} {r n : String}

/-- The column is read by the threshold of a call. -/
def ThresholdReads (calls : List Call) (r n : String) : Prop :=
  ∃ q threshold, .average q threshold ∈ calls ∧ threshold.Reads r n

/-- Thresholds that are numbers read nothing. -/
theorem not_thresholdReads
    (h : ∀ q threshold, .average q threshold ∈ calls → ∃ m k, threshold = .number m k) :
    ¬ThresholdReads calls r n := by
  rintro ⟨q, threshold, hcall, hread⟩
  obtain ⟨m, k, rfl⟩ := h q threshold hcall
  exact hread

theorem reads_field (hids : ids ≠ []) (hcall : call ∈ calls)
    (h : (call.field f ids).expr.Reads r n) :
    (∃ i ∈ ids, f.relation i = r ∧ (f.catalogEntry call.quantity).column = n) ∨
      ThresholdReads calls r n := by
  cases call with
  | sum q => exact .inl (Family.reads_sumOf hids h)
  | average q threshold =>
    exact (Family.reads_averageOf hids h).imp_right fun ht => ⟨q, threshold, hcall, ht⟩

/-- **After any sequence of sums and averages** there is one column for each of them. -/
theorem exists_stagesExactly (hids : ids ≠ []) (h : ∀ call ∈ calls, call.Served f) :
    ∃ c a, run { family := f, ids := ids } calls = .ok c ∧ c.alignment = .ok a ∧
      a.StagesExactly f ids (calls.map Call.quantity) (ThresholdReads calls) ∧
      a.fields = calls.map (Call.field f ids) := by
  obtain ⟨id, rest, rfl⟩ := List.exists_cons_of_ne_nil hids
  have hrun : run { family := f, ids := id :: rest } calls =
      .ok (withCalls { family := f, ids := id :: rest } calls) :=
    run_eq_ok_iff.2 ⟨fun call hcall => ⟨hids, h call hcall⟩, rfl⟩
  have hmentioned : ((withCalls { family := f, ids := id :: rest } calls).columns.map (·.1)) =
      calls.map Call.quantity := by
    rw [withCalls, List.nil_append, List.map_map]
    rfl
  have hfields : ((withCalls { family := f, ids := id :: rest } calls).columns.map (·.2)) =
      calls.map (Call.field f (id :: rest)) := by
    rw [withCalls, List.nil_append, List.map_map]
    rfl
  have hdeclared : ∀ q ∈ (calls.map Call.quantity).eraseDups, f.Declares q := by
    intro q hq
    obtain ⟨call, hcall, rfl⟩ := List.mem_map.1 (List.mem_eraseDups.1 hq)
    exact (h call hcall).1
  have halignment : (withCalls { family := f, ids := id :: rest } calls).alignment =
      .ok ((f.aligned id rest (calls.map Call.quantity).eraseDups).compute
        (calls.map (Call.field f (id :: rest)))) := by
    refine alignment_eq_ok_iff.2 ⟨id, rest, rfl, ?_, ?_⟩
    · rwa [quantities, hmentioned]
    · rw [quantities, hmentioned, hfields]
      rfl
  refine ⟨_, _, hrun, halignment, Family.stagesExactly_aligned fun x hx r n hread => ?_, rfl⟩
  obtain ⟨call, hcall, rfl⟩ := List.mem_map.1 hx
  refine (reads_field hids hcall hread).imp_left ?_
  rintro ⟨i, hi, hr, hn⟩
  exact ⟨i, hi, call.quantity, List.mem_map_of_mem hcall, hr, hn⟩

end Combined

/-- **Staging is exact.**  Whatever channels are chosen for the devices of a family, and whatever
    sums and averages are taken over them, in any order and with repetitions: every device is
    scanned once, for the time and the quantities that were mentioned; and nothing else is read,
    except by a threshold from outside.  Chosen channels have one column each for every device,
    sums and averages one for all devices. -/
theorem staging_exact {f : Family} {ids : List ℕ} (hids : ids ≠ []) :
    (∀ channels : List Channel,
      (∀ c ∈ channels, f.Declares c.quantity ∧ c.quantity.isWindowTotal = false) →
      ∃ p a, channels.foldlM PerDevice.choose { family := f, ids := ids } = .ok p ∧
        p.alignment = .ok a ∧
        a.StagesExactly f ids (channels.map (·.quantity)) (fun _ _ => False) ∧
        a.fields = ids.flatMap fun id => channels.map fun c =>
          f.deviceField id (f.catalogEntry c.quantity) c.label) ∧
    ∀ calls : List Combined.Call, (∀ call ∈ calls, call.Served f) →
      ∃ c a, Combined.run { family := f, ids := ids } calls = .ok c ∧ c.alignment = .ok a ∧
        a.StagesExactly f ids (calls.map Combined.Call.quantity)
          (Combined.ThresholdReads calls) ∧
        a.fields = calls.map (Combined.Call.field f ids) :=
  ⟨fun _ => PerDevice.exists_stagesExactly hids, fun _ => Combined.exists_stagesExactly hids⟩

/-- Two heat pumps, with a quantity that is asked for twice; the threshold is a number. -/
theorem staging_exact_heatpumps :
    (∃ p a, [⟨.cop, none⟩, ⟨.power, some "input"⟩, ⟨.cop, some "ratio"⟩].foldlM PerDevice.choose
        { family := .heatpump, ids := [3, 1] } = .ok p ∧ p.alignment = .ok a ∧
      a.StagesExactly .heatpump [3, 1] [.cop, .power, .cop] (fun _ _ => False) ∧
      a.fields.map (fun x => (x.expr.text, x.name.identifier)) =
        [("heatpump3.cop", "heatpump3.cop"), ("heatpump3.power_w", "heatpump3.input"),
          ("heatpump3.cop", "heatpump3.ratio"), ("heatpump1.cop", "heatpump1.cop"),
          ("heatpump1.power_w", "heatpump1.input"), ("heatpump1.cop", "heatpump1.ratio")]) ∧
    ∃ c a, Combined.run { family := .heatpump, ids := [3, 1] }
        [.sum .power, .average .cop Heatpump.idleRatio, .sum .power] = .ok c ∧
      c.alignment = .ok a ∧
      a.StagesExactly .heatpump [3, 1] [.power, .cop, .power] (fun _ _ => False) ∧
      a.fields.map (·.name.identifier) =
        ["heatpump.power_w", "heatpump.cop", "heatpump.power_w"] := by
  have hids : [3, 1] ≠ [] := by decide
  obtain ⟨p, a, hchosen, halignment, hexact, hfields⟩ := (staging_exact hids (f := .heatpump)).1
    [⟨.cop, none⟩, ⟨.power, some "input"⟩, ⟨.cop, some "ratio"⟩] (by decide)
  obtain ⟨c, b, hrun, halignment', hexact', hfields'⟩ := (staging_exact hids (f := .heatpump)).2
    [.sum .power, .average .cop Heatpump.idleRatio, .sum .power] (by decide)
  have hnumbers (r n : String) : ¬Combined.ThresholdReads
      [.sum .power, .average .cop Heatpump.idleRatio, .sum .power] r n := by
    refine Combined.not_thresholdReads fun q threshold hcall => ?_
    obtain ⟨rfl, rfl⟩ : q = .cop ∧ threshold = Heatpump.idleRatio := by simpa using hcall
    exact ⟨1, 0, rfl⟩
  refine ⟨⟨p, a, hchosen, halignment, hexact, ?_⟩,
    c, b, hrun, halignment', hexact'.of_not_outside hnumbers, ?_⟩
  · rw [hfields]
    decide +kernel
  · rw [hfields']
    decide +kernel

end EnergyQuery
