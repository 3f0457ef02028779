/-
  The signed totals that combinations and families write.

  The sign of a source is written between its terms in a sum, and inside its
  spans in a sum of spans, without parentheses.  Read back, either is the sum over
  sources and devices, each with the sign of its source.

  * `Family.Readable`: the names of the family are words, which are read as they
    are written; those of the house are (`readable_of_mem_all`);
  * `Combination.sourceTotal`: the sum over sources and devices;
  * `signed_totals_read`: what the written sums mean.
-/
import EnergyQuery.Proofs.Query.SourceOrder
import EnergyQuery.Proofs.Sql.Reading

namespace EnergyQuery

open Sql

/-! ## Names -/

/-- The relations and columns of the family are named with words. -/
def Family.Readable (f : Family) : Prop :=
  IsWord f.basename ∧ ∀ e ∈ f.catalog, IsName e.column

instance {f : Family} : Decidable f.Readable :=
  inferInstanceAs (Decidable (_ ∧ _))

namespace Family
variable {f : Family} {id : ℕ} {ids : List ℕ} {q : Quantity}

theorem readable_of_mem_all : ∀ f ∈ all, f.Readable := by
  decide

theorem Readable.relation (h : f.Readable) : IsName (f.relation id) where
  word := h.1.append isWord_toString
  ne_empty hempty := by
    obtain ⟨c, s, hdigits, -⟩ := exists_toString_eq_cons id
    have hnil : (f.basename ++ toString id).toList = [] := congrArg String.toList hempty
    rw [String.toList_append, hdigits] at hnil
    simp at hnil

theorem Readable.column (h : f.Readable) (hq : f.Declares q) : IsName (f.catalogEntry q).column :=
  h.2 _ (catalogEntry_mem hq)

/-! ## Several devices of a family -/

/-- **The sum over several devices is written as what it means.** -/
theorem exists_means_sum (h : f.Readable) (hlen : 2 ≤ ids.length) (hq : f.Declares q) :
    ∃ e, f.sum ids q = .ok e ∧ Means e.text fun _ σ =>
      (ids.map fun id => refOrZero σ (f.relation id) (f.catalogEntry q).column).sum := by
  have hids : ids ≠ [] := by
    rintro rfl
    simp at hlen
  have hmeans := means_signedSum hids (fun _ => .plus) fun id _ =>
    (⟨h.relation, h.column hq⟩ : IsName (f.relation id) ∧ IsName (f.catalogEntry q).column)
  refine ⟨_, sum_eq_ok_iff.2 ⟨hids, hq, rfl⟩, ?_⟩
  rw [sumOf_eq hlen, summands, List.map_map]
  exact hmeans

/-- **The span over several devices is written as what it means.** -/
theorem exists_means_windowSpan (h : f.Readable) (hlen : 2 ≤ ids.length) (hq : f.Declares q) :
    ∃ e, f.windowSpan ids q = .ok e ∧ Means e.text fun g _ =>
      (ids.map fun id => refSpan g (f.relation id) (f.catalogEntry q).column).sum := by
  have hids : ids ≠ [] := by
    rintro rfl
    simp at hlen
  have hmeans := means_spanSum hids (fun _ => .plus) fun id _ =>
    (⟨h.relation, h.column hq⟩ : IsName (f.relation id) ∧ IsName (f.catalogEntry q).column)
  refine ⟨_, windowSpan_eq_ok_iff.2 ⟨hids, hq, rfl⟩, ?_⟩
  match ids, hlen with
  | i :: j :: rest, _ => exact hmeans

end Family

/-! ## Several sources -/

namespace Combination
variable {c : Combination}

/-- The sum over all sources and their devices, each with the sign of its source. -/
def sourceTotal (c : Combination) (x : Contribution → ℕ → ℚ) : ℚ :=
  (c.contributions.map fun s => (s.ids.map fun id => s.sign.apply (x s id)).sum).sum

theorem sum_members (x : Contribution → ℕ → ℚ) :
    (c.members.map fun p => p.1.sign.apply (x p.1 p.2)).sum = c.sourceTotal x := by
  rw [members_eq, sourceTotal]
  induction c.contributions with
  | nil => rfl
  | cons s sources ih =>
    rw [List.flatMap_cons, List.map_append, List.sum_append, ih, List.map_map, List.map_cons,
      List.sum_cons]
    rfl

theorem members_ne_nil (h : c.active ≠ []) : c.members ≠ [] := by
  intro hnil
  have hrelations := relations_ne_nil h
  rw [relations_eq_map_members, hnil] at hrelations
  exact hrelations rfl

/-- The names in the terms of a combination. -/
theorem isName_of_mem_members {p : Contribution × ℕ} {q : Contribution → Quantity}
    (h : ∀ s ∈ c.active, s.family.Readable) (hq : ∀ s ∈ c.active, s.family.Declares (q s))
    (hp : p ∈ c.members) :
    IsName (relationOf p) ∧ IsName (p.1.family.catalogEntry (q p.1)).column := by
  have hs := mem_active_of_mem_members hp
  exact ⟨(h _ hs).relation, (h _ hs).column (hq _ hs)⟩

/-- **A signed sum is written as what it means.** -/
theorem exists_means_sumField (hne : c.active ≠ []) (h : ∀ s ∈ c.active, s.family.Readable)
    (hq : ∀ s ∈ c.active, s.family.Declares s.quantity) (hsingle : c.single? = none)
    (label : String) :
    ∃ x, c.sumField label = .ok x ∧ Means x.expr.text fun _ σ => c.sourceTotal fun s id =>
      refOrZero σ (s.family.relation id) (s.family.catalogEntry s.quantity).column := by
  have hmeans := means_signedSum (members_ne_nil hne) (fun p => p.1.sign) fun _ hp =>
    isName_of_mem_members h hq hp
  refine ⟨_, (sumField_eq_ok_iff hsingle).2 ⟨hq, rfl⟩, ?_⟩
  rw [map_summands_eq]
  simp only [← sum_members]
  exact hmeans

/-- **A signed sum of spans is written as what it means.** -/
theorem exists_means_spanField (hne : c.active ≠ []) (h : ∀ s ∈ c.active, s.family.Readable)
    (hq : ∀ s ∈ c.active, s.family.Declares s.quantity.staged) (label : String) :
    ∃ x, c.spanField label = .ok x ∧ Means x.expr.text fun g _ => c.sourceTotal fun s id =>
      refSpan g (s.family.relation id) (s.family.catalogEntry s.quantity.staged).column := by
  have hmeans := means_spanSum (members_ne_nil hne) (fun p => p.1.sign) fun _ hp =>
    isName_of_mem_members h hq hp
  refine ⟨_, spanField_eq_ok_iff.2 ⟨hq, rfl⟩, ?_⟩
  rw [map_summands_eq (g := fun e => e)]
  simp only [← sum_members]
  exact hmeans

end Combination

/-- **Signed totals mean what they say.**  The sum and the sum of spans that a combination writes
    are read as the sum over its sources and their devices, each with the sign of its source,
    whichever signs these are and in whichever order they come; those that a family writes for
    several devices are read as plain sums.  A missing value counts as zero, and so does a missing
    largest or smallest value.  Every family of the house has names that can be read. -/
theorem signed_totals_read :
    (∀ f ∈ Family.all, f.Readable) ∧
    (∀ c : Combination, (∃ s ∈ c.contributions, s.ids ≠ []) →
      (∀ s ∈ c.active, s.family.Readable) → ∀ label,
      ((∀ s ∈ c.active, s.family.Declares s.quantity) → c.single? = none →
        ∃ x, c.sumField label = .ok x ∧ Means x.expr.text fun _ σ => c.sourceTotal fun s id =>
          refOrZero σ (s.family.relation id) (s.family.catalogEntry s.quantity).column) ∧
      ((∀ s ∈ c.active, s.family.Declares s.quantity.staged) →
        ∃ x, c.spanField label = .ok x ∧ Means x.expr.text fun g _ => c.sourceTotal fun s id =>
          refSpan g (s.family.relation id) (s.family.catalogEntry s.quantity.staged).column)) ∧
    ∀ (f : Family) (ids : List ℕ) (q : Quantity), f.Readable → 2 ≤ ids.length → f.Declares q →
      (∃ e, f.sum ids q = .ok e ∧ Means e.text fun _ σ =>
        (ids.map fun id => refOrZero σ (f.relation id) (f.catalogEntry q).column).sum) ∧
      ∃ e, f.windowSpan ids q = .ok e ∧ Means e.text fun g _ =>
        (ids.map fun id => refSpan g (f.relation id) (f.catalogEntry q).column).sum := by
  refine ⟨Family.readable_of_mem_all, ?_, ?_⟩
  · intro c hsome hread label
    have hne : c.active ≠ [] := Combination.active_ne_nil_iff.2 hsome
    exact ⟨fun hq hsingle => Combination.exists_means_sumField hne hread hq hsingle label,
      fun hq => Combination.exists_means_spanField hne hread hq label⟩
  · intro f ids q hread hlen hq
    exact ⟨Family.exists_means_sum hread hlen hq, Family.exists_means_windowSpan hread hlen hq⟩

/-- What two inverters produce, less what two meters draw from the grid, one of them first. -/
def exchange (drawn produced : Quantity) : Combination where
  name := "exchange"
  contributions := [⟨.bidirMeter, [2], .minus, drawn, []⟩, ⟨.solar, [], .minus, produced, []⟩,
    ⟨.solar, [1, 8], .plus, produced, []⟩, ⟨.bidirMeter, [5], .minus, drawn, []⟩]

theorem signed_totals_read_exchange :
    (∃ x, (exchange .power .power).sumField "power_w" = .ok x ∧
      x.expr.text = "-COALESCE(bidir2.power_w, 0) + COALESCE(solar1.power_w, 0)" ++
        " + COALESCE(solar8.power_w, 0) - COALESCE(bidir5.power_w, 0)" ∧
      Means x.expr.text fun _ σ => (exchange .power .power).sourceTotal fun s id =>
        refOrZero σ (s.family.relation id) (s.family.catalogEntry s.quantity).column) ∧
    (∃ x, (exchange .windowEnergyIn .windowEnergy).spanField "d_energy_wh" = .ok x ∧
      Means x.expr.text fun g _ => (exchange .windowEnergyIn .windowEnergy).sourceTotal fun s id =>
        refSpan g (s.family.relation id) (s.family.catalogEntry s.quantity.staged).column) ∧
    ∃ e, Family.solar.windowSpan [1, 8] .energy = .ok e ∧ Means e.text fun g _ =>
      ([1, 8].map fun id => refSpan g (Family.solar.relation id) "energy_wh").sum := by
  obtain ⟨-, hcombination, hfamily⟩ := signed_totals_read
  have hsome (drawn produced : Quantity) :
      ∃ s ∈ (exchange drawn produced).contributions, s.ids ≠ [] :=
    ⟨⟨.bidirMeter, [2], .minus, drawn, []⟩, List.mem_cons_self, by simp⟩
  obtain ⟨x, hx, hmeans⟩ := (hcombination (exchange .power .power) (hsome _ _) (by decide)
    "power_w").1 (by decide) rfl
  refine ⟨⟨x, hx, ?_, hmeans⟩, ?_, ?_⟩
  · obtain rfl := Except.ok.inj hx
    rfl
  · exact (hcombination (exchange .windowEnergyIn .windowEnergy) (hsome _ _) (by decide)
      "d_energy_wh").2 (by decide)
  · exact (hfamily .solar [1, 8] .energy (by decide) (by decide) (by decide)).2

end EnergyQuery
