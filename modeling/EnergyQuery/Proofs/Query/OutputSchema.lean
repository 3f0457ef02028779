/-
  What a statement outputs does not depend on how it is composed.

  A single device is read directly from its table, several are aligned and their
  columns selected by name from a derived table.  The names and the order of the
  output columns are the same: that of a list of devices, whatever its length.

  * `Statement.aliases`: the output columns, as they are written;
  * `Family.outputs_labelled`, `Family.outputs_total`, ..: the statements over one
    family;
  * `Combination.outputs_total`, `Combination.outputs_windowTotal`: signed sums;
  * `Heating.outputs_heat`, `Heatpump.outputs_all`, `Generator.outputs_heat`: the
    statements in which a column depends on the devices;
  * `output_schema`: all of them.
-/
import EnergyQuery.Proofs.Query.HouseSpelling
import EnergyQuery.Proofs.Query.Refusals

namespace EnergyQuery

open Sql

/-- The names of the output columns as they are written, in order. -/
def Sql.Statement.aliases (s : Statement) : List String :=
  s.fields.map (·.name.text)

/-- The statement can be composed, and outputs these columns. -/
def Outputs (x : Composed Statement) (aliases : List String) : Prop :=
  ∃ s, x = .ok s ∧ s.aliases = aliases

/-! ## Statements over one family -/

theorem Alignment.aliases_statement {a : Alignment} :
    a.statement.aliases = "time" :: a.fields.map (·.name.text) := by
  show "time" :: (a.fields.map fun f => Field.ofName f.name).map (·.name.text) = _
  rw [List.map_map]
  rfl

namespace Family
variable {f : Family} {ids : List ℕ} {q : Quantity} {qs : List Quantity} {channels : List Channel}
  {a : Alignment}

/-- The written names of the columns of each device, by their labels. -/
def deviceAliases (f : Family) (ids : List ℕ) (labels : List String) : List String :=
  ids.flatMap fun id => labels.map fun l => Text.quoteName (f.basename ++ toString id ++ "." ++ l)

theorem aliases_ordered {id : ℕ} {fields : List Field} :
    (f.scan id (.time :: fields)).inWindow.ordered.aliases = "time" :: fields.map (·.name.text) :=
  rfl

theorem aliases_joinedOver {id : ℕ} {rest : List ℕ} {c : Quantity} {fields : List Field} :
    (f.joinedOver id rest c fields).aliases = fields.map (·.name.text) :=
  rfl

theorem aliases_fields : (PerDevice.mk f ids channels).fields.map (·.name.text) =
    f.deviceAliases ids (channels.map f.channelLabel) := by
  rw [PerDevice.fields, List.map_flatMap]
  refine List.flatMap_congr fun id _ => ?_
  rw [List.map_map, List.map_map]
  rfl

/-- **Columns of each device**, in the order of the devices and then of the channels. -/
theorem outputs_labelled (hf : f ∈ all) (hids : ids ≠ [])
    (hc : ∀ c ∈ channels, c.quantity.isWindowTotal = false ∧ f.Declares c.quantity) :
    Outputs (f.labelled ids channels)
      ("time" :: f.deviceAliases ids (channels.map f.channelLabel)) := by
  obtain ⟨s, hs⟩ := exists_of_composes (composes_labelled hf hids hc fun _ _ _ _ => trivial)
  refine ⟨s, hs, ?_⟩
  obtain ⟨-, ⟨id, rfl, rfl⟩ | ⟨id, rest, rfl, rfl⟩⟩ := labelled_cases hs
  · rw [aliases_ordered, deviceAliases, List.flatMap_singleton, List.map_map, List.map_map]
    rfl
  · rw [Alignment.aliases_statement]
    exact congrArg ("time" :: ·) aliases_fields

theorem outputs_each (hf : f ∈ all) (hids : ids ≠ [])
    (hq : ∀ q ∈ qs, q.isWindowTotal = false ∧ f.Declares q) :
    Outputs (f.each ids qs)
      ("time" :: f.deviceAliases ids (qs.map fun q => (f.catalogEntry q).column)) := by
  have hlabels : (qs.map fun q => ({ quantity := q } : Channel)).map f.channelLabel =
      qs.map fun q => (f.catalogEntry q).column := by
    rw [List.map_map]
    rfl
  rw [← hlabels]
  exact outputs_labelled hf hids (by simpa using hq)

theorem aliases_perDevice (h : f.perDevice ids qs = .ok a) :
    a.fields.map (·.name.text) =
      f.deviceAliases ids (qs.map fun q => (f.catalogEntry q).column) := by
  obtain ⟨id, rest, rfl, -, rfl⟩ := PerDevice.alignment_eq_ok_iff.1 (perDevice_eq_ok_iff.1 h).2
  refine aliases_fields.trans ?_
  rw [List.map_map]
  rfl

/-- The columns of each device stand before those that are computed over all. -/
theorem aliases_beside {fields : List Field} (h : f.perDevice ids qs = .ok a) :
    (a.compute fields).statement.aliases =
      "time" :: f.deviceAliases ids (qs.map fun q => (f.catalogEntry q).column) ++
        fields.map (·.name.text) := by
  rw [Alignment.aliases_statement, Alignment.compute, List.map_append, aliases_perDevice h]
  rfl

/-- **One column for all devices.** -/
theorem outputs_total (hf : f ∈ all) (hids : ids ≠ []) (hw : q.isWindowTotal = false)
    (hd : f.Declares q) :
    Outputs (f.total ids q)
      ["time", Text.quoteName (f.basename ++ "." ++ (f.catalogEntry q).column)] := by
  obtain ⟨s, hs⟩ := exists_of_composes (composes_total admits_all hf hids hw hd)
  refine ⟨s, hs, ?_⟩
  obtain ⟨-, ⟨id, rfl, rfl⟩ | ⟨id, rest, rfl, rfl⟩⟩ := total_cases hs
  · rfl
  · exact Alignment.aliases_statement

/-- **The total of each device over the window.** -/
theorem outputs_windowEach (hf : f ∈ all) (hids : ids ≠ []) (hw : q.isWindowTotal = true)
    (hd : f.Declares q) :
    Outputs (f.windowEach ids q) (f.deviceAliases ids [(f.catalogEntry q).column]) := by
  obtain ⟨s, hs⟩ := exists_of_composes (composes_windowEach admits_all hf hids hw hd)
  refine ⟨s, hs, ?_⟩
  obtain ⟨-, ⟨id, rfl, rfl⟩ | ⟨c, id, rest, -, -, rfl, rfl⟩⟩ := windowEach_cases hs
  · rfl
  · rw [aliases_joinedOver, List.map_map, List.map_eq_flatMap]
    rfl

/-- **The total of all devices over the window.** -/
theorem outputs_windowTotal (hf : f ∈ all) (hids : ids ≠ []) (hw : q.isWindowTotal = true)
    (hd : f.Declares q) :
    Outputs (f.windowTotal ids q)
      [Text.quoteName (f.basename ++ "." ++ (f.catalogEntry q).column)] := by
  obtain ⟨s, hs⟩ := exists_of_composes (composes_windowTotal admits_all hf hids hw hd)
  refine ⟨s, hs, ?_⟩
  obtain ⟨-, ⟨id, rfl, rfl⟩ | ⟨c, id, rest, -, -, rfl, rfl⟩⟩ := windowTotal_cases hs
  · rfl
  · rfl

end Family

section
variable {ids : List ℕ}

theorem Generator.outputs_heat (hids : ids ≠ []) :
    Outputs (Generator.heat ids) ("time" :: Family.generator.deviceAliases ids ["heat_w"] ++
      if 2 ≤ ids.length then [Text.quoteName "generator.heat_w"] else []) := by
  have hf : Family.generator ∈ Family.all := by decide
  by_cases hlen : ids.length < 2
  · rw [if_neg (by omega), List.append_nil, Generator.heat, if_pos hlen]
    exact Family.outputs_each hf hids (by decide)
  · obtain ⟨s, hs⟩ := Family.exists_of_composes (Generator.composes_heat admits_all hids)
    refine ⟨s, hs, ?_⟩
    rw [Generator.heat, if_neg hlen] at hs
    simp only [Fallible.bind_eq_ok, Fallible.pure_eq_ok] at hs
    obtain ⟨a, ha, x, hx, rfl⟩ := hs
    obtain ⟨-, -, rfl⟩ := Family.sumField_eq_ok_iff.1 hx
    rw [if_pos (by omega), Family.aliases_beside ha]
    rfl

theorem Heatpump.outputs_all (hids : ids ≠ []) :
    Outputs (Heatpump.all ids)
      ("time" :: Family.heatpump.deviceAliases ids ["power_w", "heat_w", "cop"] ++
        if 2 ≤ ids.length then
          [Text.quoteName "heatpump.power_w", Text.quoteName "heatpump.heat_w",
            Text.quoteName "heatpump.cop"]
        else []) := by
  have hf : Family.heatpump ∈ Family.all := by decide
  by_cases hlen : ids.length < 2
  · rw [if_neg (by omega), List.append_nil, Heatpump.all, if_pos hlen]
    exact Family.outputs_each hf hids (by decide)
  · obtain ⟨s, hs⟩ := Family.exists_of_composes (Heatpump.composes_all admits_all hids)
    refine ⟨s, hs, ?_⟩
    rw [Heatpump.all, if_neg hlen] at hs
    simp only [copField, Fallible.bind_eq_ok, Fallible.pure_eq_ok] at hs
    obtain ⟨a, ha, x, hx, y, hy, _, ⟨z, -, rfl⟩, rfl⟩ := hs
    obtain ⟨-, -, rfl⟩ := Family.sumField_eq_ok_iff.1 hx
    obtain ⟨-, -, rfl⟩ := Family.sumField_eq_ok_iff.1 hy
    rw [if_pos (by omega), Family.aliases_beside ha]
    rfl

end

/-! ## Combinations -/

namespace Combination
variable {c : Combination} {label : String}

/-- **The signed sum at every instant.** -/
theorem outputs_total (hne : c.active ≠ [])
    (hs : ∀ s ∈ c.active, s.quantity.isWindowTotal = false ∧ s.Declares) :
    Outputs (c.total label) ["time", Text.quoteName (c.name ++ "." ++ label)] := by
  cases hsingle : c.single? with
  | some p =>
    obtain ⟨t, id⟩ := p
    obtain ⟨hw, hd⟩ := hs t (by simp [(single?_eq_some hsingle).1])
    have hq := hd _ (Contribution.quantity_mem_staged hw)
    exact ⟨_, (total_eq_ok_iff_of_single hsingle).2 ⟨hw, hq, rfl⟩, rfl⟩
  | none =>
    obtain ⟨a, rs, hr⟩ := List.exists_cons_of_ne_nil (relations_ne_nil hne)
    exact ⟨_, (total_eq_ok_iff hsingle).2 ⟨hs, a, rs, hr, rfl⟩, Alignment.aliases_statement⟩

/-- **The signed sum of the totals over the window.** -/
theorem outputs_windowTotal (hne : c.active ≠ [])
    (hs : ∀ s ∈ c.active, s.quantity.isWindowTotal = true ∧ s.Declares)
    (hd : ∀ s ∈ c.active, s.family.Declares s.quantity) :
    Outputs (c.windowTotal label) [Text.quoteName (c.name ++ "." ++ label)] := by
  cases hsingle : c.single? with
  | some p =>
    obtain ⟨t, id⟩ := p
    have ht : t ∈ c.active := by simp [(single?_eq_some hsingle).1]
    exact ⟨_, (windowTotal_eq_ok_iff_of_single hsingle).2 ⟨(hs t ht).1, hd t ht, rfl⟩, rfl⟩
  | none =>
    obtain ⟨a, rs, hr⟩ := List.exists_cons_of_ne_nil (relations_ne_nil hne)
    exact ⟨_, (windowTotal_eq_ok_iff hsingle).2 ⟨hs, a, rs, hr, rfl⟩, rfl⟩

/-- The sum at an instant is named after the combination. -/
theorem name_sumField {x : Field} (h : c.sumField label = .ok x) :
    x.name = c.columnName label := by
  unfold sumField at h
  split at h
  · obtain ⟨_, -, h⟩ := Fallible.bind_eq_ok.1 h
    exact Fallible.pure_eq_ok.1 h ▸ rfl
  · obtain ⟨_, -, h⟩ := Fallible.bind_eq_ok.1 h
    exact Fallible.pure_eq_ok.1 h ▸ rfl

theorem Uniform.outputs_total {q : Quantity} (h : c.Uniform q) (hne : c.active ≠ [])
    (hw : q.isWindowTotal = false) :
    Outputs (c.total label) ["time", Text.quoteName (c.name ++ "." ++ label)] :=
  Combination.outputs_total hne fun s hs => ⟨(h.active s hs).2.1 ▸ hw, (h.active s hs).2.2.2⟩

theorem Uniform.outputs_windowTotal {q : Quantity} (h : c.Uniform q) (hne : c.active ≠ [])
    (hw : q.isWindowTotal = true) :
    Outputs (c.windowTotal label) [Text.quoteName (c.name ++ "." ++ label)] :=
  Combination.outputs_windowTotal hne
    (fun s hs => ⟨(h.active s hs).2.1 ▸ hw, (h.active s hs).2.2.2⟩)
    fun s hs => (h.active s hs).2.2.1

end Combination

namespace Production
variable {solars generators : List ℕ} {q : Quantity}

theorem active_ne_nil (hne : solars ≠ [] ∨ generators ≠ []) :
    (combination solars generators q).active ≠ [] := by
  simpa [Combination.active_ne_nil_iff, combination] using hne

theorem outputs_power (hne : solars ≠ [] ∨ generators ≠ []) :
    Outputs (power solars generators) ["time", Text.quoteName "production.power_w"] :=
  (uniform (by decide)).outputs_total (active_ne_nil hne) rfl

theorem outputs_energy (hne : solars ≠ [] ∨ generators ≠ []) :
    Outputs (energy solars generators) [Text.quoteName "production.d_energy_wh"] :=
  (uniform (by decide)).outputs_windowTotal (active_ne_nil hne) rfl

end Production

namespace Heating
variable {heatpumps generators : List ℕ} {q : Quantity} {also : List Quantity}

theorem active_ne_nil (hne : heatpumps ≠ [] ∨ generators ≠ []) :
    (combination heatpumps generators q also).active ≠ [] := by
  simpa [Combination.active_ne_nil_iff, combination] using hne

theorem outputs_energy (hne : heatpumps ≠ [] ∨ generators ≠ []) :
    Outputs (energy heatpumps generators) [Text.quoteName "heating.d_heat_wh"] :=
  uniform.outputs_windowTotal (active_ne_nil hne) rfl

/-- Heat and coefficient of performance over the joined relations. -/
theorem aliases_aligned {a : Alignment} {x y : Field}
    (hx : (combination heatpumps generators .heat [.cop]).sumField "heat_w" = .ok x)
    (ha : (combination heatpumps generators .heat [.cop]).alignment = .ok a)
    (hy : Heatpump.copField heatpumps = .ok y) :
    (a.compute [x, y]).statement.aliases =
      ["time", Text.quoteName "heating.heat_w", Text.quoteName "heatpump.cop"] := by
  have hname := Combination.name_sumField hx
  obtain ⟨-, b, rs, -, rfl⟩ := Combination.alignment_eq_ok_iff.1 ha
  obtain ⟨_, -, hy⟩ := Fallible.bind_eq_ok.1 hy
  obtain rfl := Fallible.pure_eq_ok.1 hy
  rw [Alignment.aliases_statement]
  show ["time", x.name.text, Text.quoteName ("heatpump" ++ "." ++ "cop")] = _
  rw [hname]
  show ["time", Text.quoteName ("heating" ++ "." ++ "heat_w"), _] = _
  rfl

/-- **Heat, with the coefficient of performance if there are heat pumps.** -/
theorem outputs_heat (hne : heatpumps ≠ [] ∨ generators ≠ []) :
    Outputs (heat heatpumps generators)
      (["time", Text.quoteName "heating.heat_w"] ++
        if heatpumps = [] then [] else [Text.quoteName "heatpump.cop"]) := by
  obtain ⟨s, hs⟩ := Family.exists_of_composes (composes_heat admits_all hne)
  rcases heatpumps with _ | ⟨id, _ | ⟨j, heatpumps⟩⟩
  · have hactive : ∀ s ∈ (combination [] generators .heat [.cop]).active,
        s.family ∈ Family.all ∧ s.quantity = .heat ∧ s.Declares :=
      declares_active (by decide) (by decide)
    refine Combination.outputs_total (active_ne_nil hne) fun s hs => ?_
    rw [(hactive s hs).2.1]
    exact ⟨rfl, (hactive s hs).2.2⟩
  · refine ⟨s, hs, ?_⟩
    rcases generators with _ | ⟨i, generators⟩
    · simp only [heat, Fallible.bind_eq_ok, Fallible.pure_eq_ok] at hs
      obtain ⟨x, -, y, -, rfl⟩ := hs
      rw [Family.aliases_ordered]
      show ["time", Text.quoteName ("heating" ++ "." ++ "heat_w"),
        Text.quoteName ("heatpump" ++ "." ++ "cop")] = _
      rfl
    · simp only [heat, Fallible.bind_eq_ok, Fallible.pure_eq_ok] at hs
      obtain ⟨a, ha, x, hx, y, hy, rfl⟩ := hs
      exact aliases_aligned hx ha hy
  · refine ⟨s, hs, ?_⟩
    simp only [heat, Fallible.bind_eq_ok, Fallible.pure_eq_ok] at hs
    obtain ⟨a, ha, x, hx, y, hy, rfl⟩ := hs
    exact aliases_aligned hx ha hy

end Heating

/-! ## All statements -/

/-- **What a statement outputs, for every list of devices.**

    Over one family: the time and, for each device and channel, a column named after both; the time
    and one column; a total of each device, without time; one total.  Production and heating: one
    column named after the combination, with time or as a total over the window, and beside the heat
    the coefficient of performance if there is a heat pump.  All heat pumps, and the heat of all
    generators: the columns of each device and, of several, the combined ones. -/
theorem output_schema :
    (∀ f ∈ Family.all, ∀ ids ≠ [],
      (∀ channels : List Channel,
        (∀ c ∈ channels, c.quantity.isWindowTotal = false ∧ f.Declares c.quantity) →
          Outputs (f.labelled ids channels)
            ("time" :: f.deviceAliases ids (channels.map f.channelLabel))) ∧
      ∀ q, f.Declares q →
        (q.isWindowTotal = false → Outputs (f.total ids q)
          ["time", Text.quoteName (f.basename ++ "." ++ (f.catalogEntry q).column)]) ∧
        (q.isWindowTotal = true →
          Outputs (f.windowEach ids q) (f.deviceAliases ids [(f.catalogEntry q).column]) ∧
          Outputs (f.windowTotal ids q)
            [Text.quoteName (f.basename ++ "." ++ (f.catalogEntry q).column)])) ∧
    (∀ solars generators : List ℕ, solars ≠ [] ∨ generators ≠ [] →
      Outputs (Production.power solars generators) ["time", Text.quoteName "production.power_w"] ∧
      Outputs (Production.energy solars generators) [Text.quoteName "production.d_energy_wh"]) ∧
    (∀ heatpumps generators : List ℕ, heatpumps ≠ [] ∨ generators ≠ [] →
      Outputs (Heating.heat heatpumps generators) (["time", Text.quoteName "heating.heat_w"] ++
        if heatpumps = [] then [] else [Text.quoteName "heatpump.cop"]) ∧
      Outputs (Heating.energy heatpumps generators) [Text.quoteName "heating.d_heat_wh"]) ∧
    ∀ ids : List ℕ, ids ≠ [] →
      Outputs (Heatpump.all ids)
        ("time" :: Family.heatpump.deviceAliases ids ["power_w", "heat_w", "cop"] ++
          if 2 ≤ ids.length then
            [Text.quoteName "heatpump.power_w", Text.quoteName "heatpump.heat_w",
              Text.quoteName "heatpump.cop"]
          else []) ∧
      Outputs (Generator.heat ids) ("time" :: Family.generator.deviceAliases ids ["heat_w"] ++
        if 2 ≤ ids.length then [Text.quoteName "generator.heat_w"] else []) := by
  refine ⟨fun f hf ids hids => ⟨fun channels hc => ?_, fun q hd => ⟨fun hw => ?_, fun hw => ?_⟩⟩,
    fun solars generators hne => ?_, fun heatpumps generators hne => ?_, fun ids hids => ?_⟩
  · exact Family.outputs_labelled hf hids hc
  · exact Family.outputs_total hf hids hw hd
  · exact ⟨Family.outputs_windowEach hf hids hw hd, Family.outputs_windowTotal hf hids hw hd⟩
  · exact ⟨Production.outputs_power hne, Production.outputs_energy hne⟩
  · exact ⟨Heating.outputs_heat hne, Heating.outputs_energy hne⟩
  · exact ⟨Heatpump.outputs_all hids, Generator.outputs_heat hids⟩

theorem output_schema_heatpumps :
    Outputs (Family.heatpump.labelled [4, 2] [⟨.cop, none⟩, ⟨.heat, some "warm"⟩])
      ["time", "\"heatpump4.cop\"", "\"heatpump4.warm\"", "\"heatpump2.cop\"",
        "\"heatpump2.warm\""] ∧
      Outputs (Family.heatpump.windowTotal [4, 2] .windowHeat) ["\"heatpump.d_heat_wh\""] ∧
      Outputs (Production.energy [] [1]) ["\"production.d_energy_wh\""] ∧
      Outputs (Heating.heat [4] [1]) ["time", "\"heating.heat_w\"", "\"heatpump.cop\""] ∧
      Outputs (Generator.heat [1]) ["time", "\"generator1.heat_w\""] := by
  obtain ⟨hfamily, hproduction, hheating, hdevices⟩ := output_schema
  obtain ⟨hlabelled, hquantity⟩ := hfamily .heatpump (by decide) [4, 2] (by decide)
  exact ⟨hlabelled _ (by decide), ((hquantity .windowHeat (by decide)).2 (by decide)).2,
    (hproduction [] [1] (by decide)).2, (hheating [4] [1] (by decide)).1,
    (hdevices [1] (by decide)).2⟩

end EnergyQuery
