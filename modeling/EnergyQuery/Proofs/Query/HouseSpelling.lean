/-
  The combinations and buckets of a house can be composed, and are spelled.

  * `Combination.composes_total`, `Combination.composes_windowTotal`: the two
    signed sums, if some contribution has a device;
  * `Generator.composes_heat`, `Heatpump.composes_all`, `Heating.composes_heat`:
    columns of devices beside columns of their family;
  * `Buckets.spelled_selected`, `Buckets.composes_total`: totals per bucket.
-/
import EnergyQuery.Proofs.Query.Spelling

namespace EnergyQuery

open Sql

section
variable {N L : String → Prop}

/-! ## Signed sums -/

namespace Contribution
variable {s : Contribution} {q : Quantity}

theorem spelled_summands (hf : s.family ∈ Family.all) (hd : s.family.Declares q) :
    ∀ m ∈ s.summands q, m.expr.Spelled N L := by
  intro m hm
  obtain ⟨id, -, rfl⟩ := List.mem_map.1 hm
  exact ⟨Family.isWord_relation hf, Family.isWord_column hf hd⟩

end Contribution

namespace Combination
variable {c : Combination} {a label : String} {rs : List String}

theorem isWord_relations (hf : ∀ s ∈ c.active, s.family ∈ Family.all) :
    ∀ r ∈ c.relations, IsWord r := by
  intro r hr
  obtain ⟨s, hs, hr⟩ := List.mem_flatMap.1 hr
  obtain ⟨id, -, rfl⟩ := List.mem_map.1 hr
  exact Family.isWord_relation (hf s hs)

theorem spelled_stages (hf : ∀ s ∈ c.active, s.family ∈ Family.all)
    (hd : ∀ s ∈ c.active, s.Declares) :
    ∀ t ∈ c.active.flatMap stagedOf, (∃ n, t.name = some n ∧ IsWord n) ∧ t.Spelled N L := by
  intro t ht
  obtain ⟨s, hs, ht⟩ := List.mem_flatMap.1 ht
  exact Family.spelled_scans (hf s hs) (hd s hs) t ht

theorem spelled_aligned (hf : ∀ s ∈ c.active, s.family ∈ Family.all)
    (hd : ∀ s ∈ c.active, s.Declares) (hr : c.relations = a :: rs) :
    (c.aligned a rs).Spelled N L where
  staged := spelled_stages hf hd
  relations := by
    rw [show (c.aligned a rs).relations = a :: rs from rfl, ← hr]
    exact isWord_relations hf
  joins := rfl
  fields := by simp [aligned]

/-- What is added up is spelled, whatever is done to each term. -/
theorem spelled_terms {q : Contribution → Quantity} {g : Expr → Expr}
    (hg : ∀ e : Expr, e.Spelled N L → (g e).Spelled N L)
    (hf : ∀ s ∈ c.active, s.family ∈ Family.all)
    (hd : ∀ s ∈ c.active, s.family.Declares (q s)) :
    ∀ t ∈ (c.summands q).map fun m => (m.sign, g m.expr), t.2.Spelled N L := by
  intro t ht
  obtain ⟨m, hm, rfl⟩ := List.mem_map.1 ht
  obtain ⟨s, hs, hm⟩ := List.mem_flatMap.1 hm
  exact hg _ (Contribution.spelled_summands (hf s hs) (hd s hs) m hm)

theorem spelled_sumField (hN : Admits N L) (hname : IsWord c.name) (hlabel : IsWord label)
    (hr : c.relations = a :: rs) (hf : ∀ s ∈ c.active, s.family ∈ Family.all)
    (hd : ∀ s ∈ c.active, s.family.Declares s.quantity) :
    Field.Spelled N L ⟨.signedSum ((c.summands (·.quantity)).map fun m => (m.sign, .orZero m.expr)),
      c.columnName label⟩ := by
  refine ⟨Expr.spelled_signedSum ?_ (spelled_terms (fun _ h => h) hf hd), hN.name hname hlabel⟩
  simpa using summands_ne_nil hr

/-- **The signed sum at every instant.** -/
theorem composes_total (hN : Admits N L) (hname : IsWord c.name) (hlabel : IsWord label)
    (hne : c.active ≠ []) (hf : ∀ s ∈ c.active, s.family ∈ Family.all)
    (hs : ∀ s ∈ c.active, s.quantity.isWindowTotal = false ∧ s.Declares) :
    Composes N L (c.total label) := by
  have hd : ∀ s ∈ c.active, s.family.Declares s.quantity := fun s h =>
    (hs s h).2 _ (Contribution.quantity_mem_staged (hs s h).1)
  cases hsingle : c.single? with
  | some p =>
    obtain ⟨t, id⟩ := p
    have ht : t ∈ c.active := by simp [(single?_eq_some hsingle).1]
    refine ⟨_, (total_eq_ok_iff_of_single hsingle).2 ⟨(hs t ht).1, hd t ht, rfl⟩, ?_⟩
    refine (Family.spelled_inWindow (hf t ht) fun x hx => ?_).ordered
    obtain rfl | rfl := by simpa using hx
    · exact Family.spelled_time
    · exact Family.spelled_computed (hf t ht) (hd t ht) (hN.name hname hlabel)
  | none =>
    obtain ⟨a, rs, hr⟩ := List.exists_cons_of_ne_nil (relations_ne_nil hne)
    refine ⟨_, (total_eq_ok_iff hsingle).2 ⟨hs, a, rs, hr, rfl⟩, ?_⟩
    refine ((spelled_aligned hf (fun s h => (hs s h).2) hr).compute fun x hx => ?_).statement
    obtain rfl := List.mem_singleton.1 hx
    exact spelled_sumField hN hname hlabel hr hf hd

/-- **The signed sum of the totals over the window.** -/
theorem composes_windowTotal (hN : Admits N L) (hname : IsWord c.name) (hlabel : IsWord label)
    (hne : c.active ≠ []) (hf : ∀ s ∈ c.active, s.family ∈ Family.all)
    (hs : ∀ s ∈ c.active, s.quantity.isWindowTotal = true ∧ s.Declares)
    (hd : ∀ s ∈ c.active, s.family.Declares s.quantity) :
    Composes N L (c.windowTotal label) := by
  cases hsingle : c.single? with
  | some p =>
    obtain ⟨t, id⟩ := p
    have ht : t ∈ c.active := by simp [(single?_eq_some hsingle).1]
    refine ⟨_, (windowTotal_eq_ok_iff_of_single hsingle).2 ⟨(hs t ht).1, hd t ht, rfl⟩, ?_⟩
    refine Family.spelled_inWindow (hf t ht) fun x hx => ?_
    obtain rfl := List.mem_singleton.1 hx
    exact Family.spelled_computed (hf t ht) (hd t ht) (hN.name hname hlabel)
  | none =>
    obtain ⟨a, rs, hr⟩ := List.exists_cons_of_ne_nil (relations_ne_nil hne)
    refine ⟨_, (windowTotal_eq_ok_iff hsingle).2 ⟨hs, a, rs, hr, rfl⟩, ?_⟩
    refine spelled_joinedStatement (spelled_stages hf fun s h => (hs s h).2) (fun x hx => ?_) ?_
    · obtain rfl := List.mem_singleton.1 hx
      refine ⟨Expr.spelled_spanSum ?_ ?_, hN.name hname hlabel⟩
      · simpa using summands_ne_nil hr
      · exact spelled_terms (fun _ h => h) hf fun s h => (hs s h).2 _ Contribution.counter_mem_staged
    · rw [← hr]
      exact isWord_relations hf

/-- Every contribution is that of a family of the house, which declares the quantity that is
    combined and what is staged for it, and nothing is staged beside it. -/
structure Uniform (c : Combination) (q : Quantity) : Prop where
  quantity : ∀ s ∈ c.contributions, s.quantity = q ∧ s.also = []
  families : ∀ f ∈ c.contributions.map (·.family),
    f ∈ Family.all ∧ f.Declares q ∧ f.Declares q.staged

theorem Uniform.active {q : Quantity} (h : c.Uniform q) :
    ∀ s ∈ c.active, s.family ∈ Family.all ∧ s.quantity = q ∧ s.family.Declares s.quantity ∧
      s.Declares := by
  intro s hs
  have hmem := (List.mem_filter.1 hs).1
  obtain ⟨hquantity, halso⟩ := h.quantity s hmem
  obtain ⟨hf, hd, hstaged⟩ := h.families _ (List.mem_map_of_mem hmem)
  refine ⟨hf, hquantity, hquantity ▸ hd, fun p hp => ?_⟩
  obtain rfl : p = q.staged := by simpa [Contribution.staged, hquantity, halso] using hp
  exact hstaged

theorem Uniform.composes_total {q : Quantity} (h : c.Uniform q) (hN : Admits N L)
    (hname : IsWord c.name) (hlabel : IsWord label) (hne : c.active ≠ [])
    (hw : q.isWindowTotal = false) : Composes N L (c.total label) :=
  Combination.composes_total hN hname hlabel hne (fun s hs => (h.active s hs).1)
    fun s hs => ⟨(h.active s hs).2.1 ▸ hw, (h.active s hs).2.2.2⟩

theorem Uniform.composes_windowTotal {q : Quantity} (h : c.Uniform q) (hN : Admits N L)
    (hname : IsWord c.name) (hlabel : IsWord label) (hne : c.active ≠ [])
    (hw : q.isWindowTotal = true) : Composes N L (c.windowTotal label) :=
  Combination.composes_windowTotal hN hname hlabel hne (fun s hs => (h.active s hs).1)
    (fun s hs => ⟨(h.active s hs).2.1 ▸ hw, (h.active s hs).2.2.2⟩)
    fun s hs => (h.active s hs).2.2.1

end Combination

/-- The production adds up one quantity, of families that declare it. -/
theorem Production.uniform {solars generators : List ℕ} {q : Quantity}
    (h : ∀ f ∈ [Family.solar, .generator], f ∈ Family.all ∧ f.Declares q ∧ f.Declares q.staged) :
    (Production.combination solars generators q).Uniform q :=
  ⟨by simp [Production.combination], h⟩

theorem Heating.uniform {heatpumps generators : List ℕ} :
    (Heating.combination heatpumps generators .windowHeat []).Uniform .windowHeat :=
  ⟨by simp [Heating.combination], (by decide : ∀ f ∈ [Family.heatpump, .generator],
    f ∈ Family.all ∧ f.Declares .windowHeat ∧ f.Declares Quantity.windowHeat.staged)⟩

theorem Consumption.uniform {d : Devices} : (Consumption.combination d).Uniform .power :=
  ⟨by simp [Consumption.combination],
    (by decide : ∀ f ∈ [Family.meter, .battery, .generator, .heatpump, .solar, .wallbox],
      f ∈ Family.all ∧ f.Declares .power ∧ f.Declares Quantity.power.staged)⟩

/-! ## Columns of devices beside columns of their family -/

namespace Family
variable {f : Family} {ids : List ℕ} {q : Quantity} {qs : List Quantity}

theorem exists_perDevice (hN : Admits N L) (hf : f ∈ all) (hids : ids ≠ [])
    (hq : ∀ q ∈ qs, q.isWindowTotal = false ∧ f.Declares q) :
    ∃ x, f.perDevice ids qs = .ok x ∧ x.Spelled N L := by
  have hd : ∀ c ∈ qs.map ({ quantity := · } : Quantity → Channel), f.Declares c.quantity := by
    intro c hc
    obtain ⟨q, hq', rfl⟩ := List.mem_map.1 hc
    exact (hq q hq').2
  obtain ⟨x, hx, hspelled⟩ := exists_perDevice_alignment (N := N) (L := L)
    (p := ⟨f, ids, qs.map ({ quantity := · })⟩) hf hids hd fun id _ c hc => by
      obtain ⟨q, hq', rfl⟩ := List.mem_map.1 hc
      exact hN.name (isWord_relation hf) (isWord_column hf (hq q hq').2)
  exact ⟨x, perDevice_eq_ok_iff.2 ⟨fun q h => (hq q h).1, hx⟩, hspelled⟩

theorem exists_sumField (label : String) (hN : Admits N L) (hf : f ∈ all) (hids : ids ≠ [])
    (hd : f.Declares q) (hlabel : IsWord label) :
    ∃ x, f.sumField ids q label = .ok x ∧ x.Spelled N L := by
  have hsum : (f.sumOf ids (f.catalogEntry q)).Spelled N L :=
    spelled_sumOf hf (isWord_column hf hd) hids
  exact ⟨_, sumField_eq_ok_iff.2 ⟨hids, hd, rfl⟩, hsum, spelled_familyName hN hf hlabel⟩

end Family

variable {ids : List ℕ}

theorem Generator.composes_heat (hN : Admits N L) (hids : ids ≠ []) :
    Composes N L (Generator.heat ids) := by
  have hf : Family.generator ∈ Family.all := by decide
  have hq : ∀ q ∈ [Quantity.heat], q.isWindowTotal = false ∧ Family.generator.Declares q := by
    decide
  unfold Generator.heat
  split
  · exact Family.composes_each hN hf hids hq
  · obtain ⟨x, hx, hspelled⟩ := Family.exists_perDevice hN hf hids hq
    obtain ⟨y, hy, hfield⟩ := Family.exists_sumField "heat_w" hN hf hids
      (by decide : Family.generator.Declares .heat) (by decide)
    refine ⟨(x.compute [y]).statement, ?_, (hspelled.compute (by simpa using hfield)).statement⟩
    exact Fallible.bind_eq_ok.2 ⟨x, hx, Fallible.bind_eq_ok.2 ⟨y, hy, rfl⟩⟩

theorem Heatpump.exists_copField (hN : Admits N L) (hids : ids ≠ []) :
    ∃ x, Heatpump.copField ids = .ok x ∧ x.Spelled N L := by
  have hf : Family.heatpump ∈ Family.all := by decide
  have hd : Family.heatpump.Declares .cop := by decide
  have haverage : (Family.heatpump.averageOf ids (Family.heatpump.catalogEntry .cop)
      idleRatio).Spelled N L :=
    Family.spelled_averageOf hf (Family.isWord_column hf hd) hids trivial
  refine ⟨_, Fallible.bind_eq_ok.2 ⟨_, Family.average_eq_ok_iff.2 ⟨hids, hd, rfl⟩, rfl⟩, haverage, ?_⟩
  exact Family.spelled_familyName hN hf (by decide)

theorem Heatpump.composes_all (hN : Admits N L) (hids : ids ≠ []) :
    Composes N L (Heatpump.all ids) := by
  have hf : Family.heatpump ∈ Family.all := by decide
  have hq : ∀ q ∈ [Quantity.power, .heat, .cop],
      q.isWindowTotal = false ∧ Family.heatpump.Declares q := by decide
  unfold Heatpump.all
  dsimp only
  split
  · exact Family.composes_each hN hf hids hq
  · obtain ⟨x, hx, hspelled⟩ := Family.exists_perDevice hN hf hids hq
    obtain ⟨y, hy, hpower⟩ := Family.exists_sumField "power_w" hN hf hids
      (by decide : Family.heatpump.Declares .power) (by decide)
    obtain ⟨z, hz, hheat⟩ := Family.exists_sumField "heat_w" hN hf hids
      (by decide : Family.heatpump.Declares .heat) (by decide)
    obtain ⟨u, hu, hcop⟩ := Heatpump.exists_copField hN hids
    refine ⟨(x.compute [y, z, u]).statement, ?_, (hspelled.compute ?_).statement⟩
    · exact Fallible.bind_eq_ok.2 ⟨x, hx, Fallible.bind_eq_ok.2 ⟨y, hy,
        Fallible.bind_eq_ok.2 ⟨z, hz, Fallible.bind_eq_ok.2 ⟨u, hu, rfl⟩⟩⟩⟩
    · simpa using ⟨hpower, hheat, hcop⟩

/-! ## The heat of a house -/

namespace Heating
variable {heatpumps generators : List ℕ}

theorem declares_active {q : Quantity} {also : List Quantity}
    (hh : ∀ p ∈ q.staged :: also.filter (· ≠ q.staged), Family.heatpump.Declares p)
    (hg : Family.generator.Declares q.staged) :
    ∀ s ∈ (combination heatpumps generators q also).active,
      s.family ∈ Family.all ∧ s.quantity = q ∧ s.Declares := by
  intro s hs
  obtain rfl | rfl := by simpa [combination] using (List.mem_filter.1 hs).1
  · exact ⟨(by decide : Family.heatpump ∈ Family.all), rfl, hh⟩
  · exact ⟨(by decide : Family.generator ∈ Family.all), rfl, by simpa [Contribution.Declares, Contribution.staged] using hg⟩

/-- Heat and coefficient of performance over the joined relations. -/
theorem composes_aligned (hN : Admits N L) (hids : heatpumps ≠ [])
    (hlen : 2 ≤ (combination heatpumps generators .heat [.cop]).relations.length) :
    Composes N L (do
      let a ← (combination heatpumps generators .heat [.cop]).alignment
      return (a.compute [← (combination heatpumps generators .heat [.cop]).sumField "heat_w",
        ← Heatpump.copField heatpumps]).statement) := by
  have hactive : ∀ s ∈ (combination heatpumps generators .heat [.cop]).active,
      s.family ∈ Family.all ∧ s.quantity = .heat ∧ s.Declares :=
    declares_active (by decide) (by decide)
  have hd : ∀ s ∈ (combination heatpumps generators .heat [.cop]).active,
      s.family.Declares s.quantity := fun s hs =>
    (hactive s hs).2.2 _ (Contribution.quantity_mem_staged (by rw [(hactive s hs).2.1]; rfl))
  obtain ⟨a, rs, hr⟩ : ∃ a rs, (combination heatpumps generators .heat [.cop]).relations = a :: rs :=
    List.exists_cons_of_ne_nil (by rintro h; simp [h] at hlen)
  obtain ⟨x, hx, hcop⟩ := Heatpump.exists_copField hN hids
  have hname : IsWord (combination heatpumps generators .heat [.cop]).name :=
    (by decide : IsWord "heating")
  have hheat := Combination.spelled_sumField hN hname (by decide : IsWord "heat_w") hr
    (fun s hs => (hactive s hs).1) hd
  refine ⟨_, Fallible.bind_eq_ok.2 ⟨_, Combination.alignment_eq_ok_iff.2
    ⟨fun s hs => (hactive s hs).2.2, a, rs, hr, rfl⟩, Fallible.bind_eq_ok.2 ⟨_,
      (Combination.sumField_eq_ok_iff (Combination.single?_eq_none hlen)).2 ⟨hd, rfl⟩,
      Fallible.bind_eq_ok.2 ⟨x, hx, rfl⟩⟩⟩, ?_⟩
  refine ((Combination.spelled_aligned (fun s hs => (hactive s hs).1)
    (fun s hs => (hactive s hs).2.2) hr).compute ?_).statement
  simpa using ⟨hheat, hcop⟩

theorem composes_heat (hN : Admits N L) (hne : heatpumps ≠ [] ∨ generators ≠ []) :
    Composes N L (heat heatpumps generators) := by
  match heatpumps, generators, hne with
  | [], generators, hne =>
    have hactive : ∀ s ∈ (combination [] generators .heat [.cop]).active,
        s.family ∈ Family.all ∧ s.quantity = .heat ∧ s.Declares :=
      declares_active (by decide) (by decide)
    refine Combination.composes_total hN (by decide : IsWord "heating") (by decide) ?_
      (fun s hs => (hactive s hs).1) fun s hs => ⟨?_, (hactive s hs).2.2⟩
    · simpa [combination, Combination.active] using hne
    · rw [(hactive s hs).2.1]
      rfl
  -- A heatpump alone is read from its table; a generator alone has no COP, and takes the total.
  | [id], [], _ =>
    have hf : Family.heatpump ∈ Family.all := by decide
    have hheat : Family.heatpump.Declares .heat := by decide
    have hcop : Family.heatpump.Declares .cop := by decide
    refine ⟨_, Fallible.bind_eq_ok.2 ⟨_, Family.field_eq_ok_iff.2 ⟨hheat, rfl⟩,
      Fallible.bind_eq_ok.2 ⟨_, Family.field_eq_ok_iff.2 ⟨hcop, rfl⟩, rfl⟩⟩, ?_⟩
    refine (Family.spelled_inWindow hf fun x hx => ?_).ordered
    obtain rfl | rfl | rfl := by simpa using hx
    · exact Family.spelled_time
    · exact Family.spelled_computed hf hheat (hN.name (by decide : IsWord "heating") (by decide))
    · exact Family.spelled_computed hf hcop (Family.spelled_familyName hN hf (by decide))
  | [id], i :: generators, _ =>
    refine composes_aligned hN (by simp) ?_
    simp [combination, Combination.relations, Combination.active, Contribution.relations]
  | i :: j :: heatpumps, generators, _ =>
    refine composes_aligned hN (by simp) ?_
    simp [combination, Combination.relations, Combination.active, Contribution.relations]

end Heating

/-! ## Buckets -/

namespace Buckets
variable {b : Buckets} {f : Family} {id : ℕ} {ids : List ℕ} {e : Entry} {q : Quantity}
  {fields : List Field}

/-- The literals of the buckets are admitted. -/
structure Spelled (L : String → Prop) (b : Buckets) : Prop where
  unit : L b.unit.name
  step : L b.step
  offset : b.offset.isEmpty = false → L b.offset

theorem spelled_shifted (hb : b.Spelled L) {x : Expr} (hx : x.Spelled N L) :
    (b.shifted x).Spelled N L := by
  unfold shifted
  split
  · exact hx
  · next h => exact ⟨hx, hb.offset (by simpa using h)⟩

theorem spelled_statement (hb : b.Spelled L) : b.statement.Spelled N L := by
  have hboundary : (Expr.column boundary).Spelled N L := (by decide : IsWord boundary)
  refine Statement.spelled_iff.2 ⟨by simp [statement], fun x hx => ?_, fun x hx => ?_,
    by simp [statement], by simp [statement]⟩
  · rcases List.mem_cons.1 hx with rfl | hx
    · exact ⟨spelled_shifted hb hboundary, (by decide : IsWord timeColumn)⟩
    · split at hx
      · obtain rfl := List.mem_singleton.1 hx
        exact ⟨spelled_shifted hb ⟨hboundary, hb.step⟩, (by decide : IsWord nextColumn)⟩
      · simp at hx
  · obtain rfl : .buckets b.unit b.step .selected boundary = x := by simpa [statement] using hx
    exact ⟨hb.unit, hb.step, rfl, by decide⟩

theorem isWord_edge : IsWord b.edge := by
  unfold edge
  split <;> decide

theorem spelled_stage (hN : Admits N L) (hf : f ∈ Family.all) (he : e ∈ f.catalog) :
    (b.stage f id e).Spelled N L := by
  have hfields : ∀ x ∈ (b.stage f id e).fields, x.Spelled N L := by
    intro x hx
    obtain rfl | rfl : x = ⟨.truncated .hour (.column timeColumn), timeColumn⟩ ∨
        x = ⟨.max e.expr, e.column⟩ := by simpa [stage, Family.scan, Statement.restrict] using hx
    · exact ⟨⟨hN.literal "hour" (by decide), (by decide : IsWord timeColumn)⟩,
        (by decide : IsWord timeColumn)⟩
    · exact ⟨Family.spelled_entry f hf e he, Family.isWord_entry f hf e he⟩
  refine Statement.spelled_iff.2 ⟨by simp [stage, Family.scan, Statement.restrict], hfields,
    fun x hx => ?_, by simp [stage, Family.scan, Statement.restrict], fun c hc => ?_⟩
  · obtain rfl : .relation f.table = x := by
      simpa [stage, Family.scan, Statement.restrict] using hx
    exact (Family.isWord_names f hf).2
  · simp only [stage, Family.scan, Statement.restrict, List.cons_append, List.nil_append,
      List.mem_cons, List.not_mem_nil, or_false] at hc
    rcases hc with rfl | rfl | rfl | rfl | rfl | rfl
    · trivial
    · trivial
    · exact (by decide : IsWord relation)
    · trivial
    · exact ⟨(by decide : IsWord relation), isWord_edge, hN.literal "1 hour" (by decide)⟩
    · trivial

theorem isWord_startOf (hf : f ∈ Family.all) : IsWord (startOf f id) :=
  (Family.isWord_relation hf).append (by decide)

theorem isWord_nextOf (hf : f ∈ Family.all) : IsWord (nextOf f id) :=
  (Family.isWord_relation hf).append (by decide)

theorem spelled_lookup (hf : f ∈ Family.all) {scope column : String} (hs : IsWord scope)
    (hc : IsWord column) : (lookup f id scope column).Spelled N L where
  kind := trivial
  relation := Family.isWord_relation hf
  alias? a ha := by
    obtain rfl : scope = a := Option.some.inj ha
    exact hs
  condition := ⟨⟨hs, (by decide : IsWord timeColumn)⟩, (by decide : IsWord relation), hc⟩

theorem spelled_lookups (hf : f ∈ Family.all) : ∀ j ∈ b.lookups f id, j.Spelled N L := by
  intro j hj
  rcases List.mem_cons.1 hj with rfl | hj
  · exact spelled_lookup hf (isWord_startOf hf) (by decide)
  · split at hj
    · obtain rfl := List.mem_singleton.1 hj
      exact spelled_lookup hf (isWord_nextOf hf) (by decide)
    · simp at hj

/-- **Columns over the buckets and the staged readings** are spelled if the literals of the buckets
    are admitted. -/
theorem spelled_selected (hN : Admits N L) (hb : b.Spelled L) (hf : f ∈ Family.all)
    (he : e ∈ f.catalog) (hfields : ∀ x ∈ fields, x.Spelled N L) :
    (b.selected f ids e fields).Spelled N L := by
  refine Statement.spelled_iff.2 ⟨fun t ht => ?_, fun x hx => ?_, fun x hx => ?_, fun j hj => ?_,
    fun c hc => ?_⟩
  · rcases List.mem_cons.1 ht with rfl | ht
    · exact ⟨⟨relation, rfl, by decide⟩, spelled_statement hb⟩
    · obtain ⟨id, -, rfl⟩ := List.mem_map.1 ht
      exact ⟨⟨f.relation id, rfl, Family.isWord_relation hf⟩, spelled_stage hN hf he⟩
  · rcases List.mem_cons.1 hx with rfl | hx
    · exact ⟨⟨(by decide : IsWord relation), (by decide : IsWord timeColumn)⟩,
        (by decide : IsWord timeColumn)⟩
    · exact hfields x hx
  · obtain rfl : .relation relation = x := by simpa [selected] using hx
    exact (by decide : IsWord relation)
  · obtain ⟨id, -, hj⟩ := List.mem_flatMap.1 hj
    exact spelled_lookups hf j hj
  · obtain rfl | rfl : c = .timePresent (some relation) ∨ c = .orderedByTime := by
      simpa [selected] using hc
    · exact (by decide : IsWord relation)
    · trivial

theorem spelled_difference (hf : f ∈ Family.all) (he : IsWord e.column) :
    (difference f id e).Spelled N L :=
  ⟨⟨isWord_nextOf hf, he⟩, ⟨isWord_startOf hf, he⟩⟩

/-- **The total of all devices per bucket.** -/
theorem composes_total (hN : Admits N L) (hb : b.Spelled L) (hnext : b.hasNext = true)
    (hf : f ∈ Family.all) (hids : ids ≠ []) (hw : q.isWindowTotal = true) (hd : f.Declares q) :
    Composes N L (b.total f ids q) := by
  obtain ⟨c, hc⟩ := Family.exists_counter hw
  have hdc := (Family.spanOf_catalogEntry hf hc hd).1
  refine ⟨_, total_eq_ok_iff.2 ⟨hnext, c, hc, hdc, hd, hids, rfl⟩, ?_⟩
  refine spelled_selected hN hb hf (Family.catalogEntry_mem hdc) fun x hx => ?_
  obtain rfl := List.mem_singleton.1 hx
  refine ⟨Expr.spelled_sum (by simpa using hids) fun y hy => ?_,
    Family.spelled_familyName hN hf (Family.isWord_column hf hd)⟩
  obtain ⟨id, -, rfl⟩ := List.mem_map.1 hy
  exact spelled_difference hf (Family.isWord_column hf hdc)

/-- The buckets of a house. -/
theorem spelled_daily (hN : Admits N L) : daily.Spelled L where
  unit := hN.literal "day" (by decide)
  step := hN.literal "1 day" (by decide)
  offset _ := hN.literal "12 hours" (by decide)

theorem spelled_monthly (hN : Admits N L) : monthly.Spelled L where
  unit := hN.literal "month" (by decide)
  step := hN.literal "1 month" (by decide)
  offset _ := hN.literal "12 hours" (by decide)

end Buckets

end

end EnergyQuery
