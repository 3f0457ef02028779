/-
  Where the columns of weather stations come from.

  Labels belong to channels by position.  On its way out the reading of a channel
  is staged under the name of its column, renamed in a derived table, and selected
  from there by its new name.

  * `Statement.Originates`: a column that a statement selects is that of a device,
    unchanged, over any number of renamings;
  * `ReadsDevice.originates_iff`, `Statement.originates_derived_iff`: one step of
    it, for a scan and for a derived table;
  * `Family.handsOn_labelled`: the columns of each device, with their labels;
  * `labels_follow_channels`: the columns of weather stations.
-/
import EnergyQuery.Proofs.Query.OutputColumns
import EnergyQuery.Proofs.Query.OutputSchema
import EnergyQuery.Proofs.Query.Scans
import EnergyQuery.Proofs.Query.Weather

namespace EnergyQuery

open Sql

/-! ## Origins -/

/-- A column of a device, in the table that holds its rows. -/
structure Origin where
  table : String
  device : ℕ
  column : String

namespace Sql.Statement

/-- The field that the statement selects hands on the values of a column of a device as they are.
    It reads them from the table, or from a column of a derived table; that column reads them from a
    common table expression, where they are again handed on. -/
inductive Originates : Statement → Field → Origin → Prop
  | read {s : Statement} {x : Field} {t : String} {i : ℕ} {n : Name} :
    s.source = some (.relation t) → t ∈ houseTables → .device i ∈ s.clauses →
    x ∈ s.fields → x.expr = .column n → Originates s x ⟨t, i, n.identifier⟩
  | derived {s e : Statement} {x y z : Field} {c : Chain} {d r m : String} {n : Name} {o : Origin} :
    s.source = some (.derived c d) → x ∈ s.fields → x.expr = .column n →
    y ∈ c.fields → y.name.identifier = n.identifier → y.expr = .ref r m →
    e ∈ s.ctes → e.name = some r → z.name.identifier = m → Originates e z o →
    Originates s x o

/-- The field is named `p.1`, and hands on the column `p.2` and no other. -/
def HandsOn (s : Statement) (x : Field) (p : String × Origin) : Prop :=
  x.name = .quoted p.1 ∧ ∀ o, s.Originates x o ↔ o = p.2

variable {s : Statement} {x : Field} {o : Origin}

theorem originates_derived_iff {c : Chain} {d : String} (h : s.source = some (.derived c d)) :
    s.Originates x o ↔ x ∈ s.fields ∧ ∃ n, x.expr = .column n ∧
      ∃ y ∈ c.fields, y.name.identifier = n.identifier ∧ ∃ r m, y.expr = .ref r m ∧
        ∃ e ∈ s.ctes, e.name = some r ∧ ∃ z : Field, z.name.identifier = m ∧ e.Originates z o := by
  constructor
  · intro ho
    cases ho with
    | read hs => simp [h] at hs
    | derived hs hx hn hy hname hr he hename hz ho =>
      obtain ⟨rfl, -⟩ : c = _ ∧ d = _ := by simpa [h] using hs
      exact ⟨hx, _, hn, _, hy, hname, _, _, hr, _, he, hename, _, hz, ho⟩
  · rintro ⟨hx, n, hn, y, hy, hname, r, m, hr, e, he, hename, z, hz, ho⟩
    exact .derived h hx hn hy hname hr he hename hz ho

end Sql.Statement

/-- A scan hands on the columns of its device. -/
theorem ReadsDevice.originates_iff {b : Option Buckets} {d : Family × ℕ} {s : Statement}
    {x : Field} {o : Origin} (h : ReadsDevice b d s) (hd : d.1 ∈ Family.all) :
    s.Originates x o ↔
      x ∈ s.fields ∧ ∃ n, x.expr = .column n ∧ o = ⟨d.1.table, d.2, n.identifier⟩ := by
  obtain ⟨bounds, hclauses, hbounds⟩ := h.clauses
  constructor
  · intro ho
    cases ho with
    | @read _ _ t i n hs _ hi hx hn =>
      obtain rfl : d.1.table = t := by simpa [h.source] using hs
      obtain rfl : i = d.2 := by
        rw [hclauses] at hi
        cases hbounds <;> simpa using hi
      exact ⟨hx, n, hn, rfl⟩
    | derived hs => simp [h.source] at hs
  · rintro ⟨hx, n, hn, rfl⟩
    exact .read h.source (Family.table_mem_houseTables hd) (by simp [hclauses]) hx hn

/-! ## Columns of each device -/

/-- Two lists that are made alike, for each member of a list and each of another. -/
theorem forall₂_flatMap_map {α β γ δ : Type} {R : γ → δ → Prop} {l : List α} {m : List β}
    {g : α → β → γ} {h : α → β → δ} (hR : ∀ a ∈ l, ∀ b ∈ m, R (g a b) (h a b)) :
    List.Forall₂ R (l.flatMap fun a => m.map (g a)) (l.flatMap fun a => m.map (h a)) := by
  induction l with
  | nil => exact .nil
  | cons a l ih =>
    rw [List.forall_mem_cons] at hR
    rw [List.flatMap_cons, List.flatMap_cons]
    refine List.rel_append ?_ (ih hR.2)
    rw [List.forall₂_map_left_iff, List.forall₂_map_right_iff]
    exact List.forall₂_same.2 hR.1

namespace Family
variable {f : Family} {id : ℕ} {ids rest : List ℕ} {q : Quantity} {qs : List Quantity}
  {channels : List Channel} {s : Statement} {o : Origin}

/-- The quantity is a column of the table, and is staged under the name of it. -/
def IsStored (f : Family) (q : Quantity) : Prop :=
  (f.catalogEntry q).expr = .column (f.catalogEntry q).column

/-- The columns of each device, by the labels of the channels. -/
def labelledOrigins (f : Family) (ids : List ℕ) (channels : List Channel) :
    List (String × Origin) :=
  ids.flatMap fun id => channels.map fun c =>
    (f.relation id ++ "." ++ f.channelLabel c, ⟨f.table, id, (f.catalogEntry c.quantity).column⟩)

/-- What is staged under the name of a column comes from that column. -/
theorem originates_staged_iff (hf : f ∈ all) (hs : ∀ q ∈ qs, f.IsStored q) (hq : q ∈ qs) :
    (∃ z : Field, z.name.identifier = (f.catalogEntry q).column ∧
      (f.staged qs id).Originates z o) ↔ o = ⟨f.table, id, (f.catalogEntry q).column⟩ := by
  have hscan : ReadsDevice none (f, id) (f.staged qs id) := ⟨rfl, rfl, rfl, _, rfl, .window⟩
  simp only [hscan.originates_iff hf]
  constructor
  · rintro ⟨z, hz, hmem, n, hn, rfl⟩
    -- Every field of the scan, the time among them, is named as the column that it reads.
    have hname : n.identifier = z.name.identifier := by
      rcases List.mem_cons.1 hmem with rfl | hmem
      · obtain rfl : Name.plain timeColumn = n := Expr.column.inj hn
        rfl
      · obtain ⟨p, hp, rfl⟩ := List.mem_map.1 hmem
        obtain rfl : Name.plain (f.catalogEntry p).column = n :=
          Expr.column.inj ((hs p hp).symm.trans hn)
        rfl
    rw [hname, hz]
  · rintro rfl
    exact ⟨(f.catalogEntry q).field, rfl, List.mem_cons_of_mem _ (List.mem_map_of_mem hq), _,
      hs q hq, rfl⟩

/-- The columns of a single device are read where they are named. -/
theorem handsOn_ordered (hf : f ∈ all) (hs : ∀ c ∈ channels, f.IsStored c.quantity) :
    List.Forall₂ (f.scan id (.time :: channels.map fun c => ⟨(f.catalogEntry c.quantity).expr,
        f.deviceName id (f.channelLabel c)⟩)).inWindow.ordered.HandsOn
      (channels.map fun c => ⟨(f.catalogEntry c.quantity).expr, f.deviceName id (f.channelLabel c)⟩)
      (f.labelledOrigins [id] channels) := by
  rw [labelledOrigins, List.flatMap_singleton, List.forall₂_map_left_iff,
    List.forall₂_map_right_iff]
  refine List.forall₂_same.2 fun c hc => ⟨rfl, fun o => ?_⟩
  have hscan : ReadsDevice none (f, id) (f.scan id (.time :: channels.map fun c =>
      ⟨(f.catalogEntry c.quantity).expr, f.deviceName id (f.channelLabel c)⟩)).inWindow.ordered :=
    ⟨rfl, rfl, rfl, _, rfl, .windowInOrder⟩
  rw [hscan.originates_iff hf]
  constructor
  · rintro ⟨-, n, hn, rfl⟩
    obtain rfl : Name.plain (f.catalogEntry c.quantity).column = n :=
      Expr.column.inj ((hs c hc).symm.trans hn)
    rfl
  · rintro rfl
    exact ⟨List.mem_cons_of_mem _ (List.mem_map_of_mem hc), _, hs c hc, rfl⟩

/-- A column of one of several devices is read where it is staged, and named in the derived
    table. -/
theorem originates_aligned_iff (hf : f ∈ all) (hs : ∀ c ∈ channels, f.IsStored c.quantity)
    (hl : (channels.map f.channelLabel).Nodup) {i : ℕ} (hi : i ∈ id :: rest) {c : Channel}
    (hc : c ∈ channels) :
    ((f.aligned id rest (PerDevice.mk f (id :: rest) channels).quantities).compute
      (PerDevice.mk f (id :: rest) channels).fields).statement.Originates
        (.ofName (f.deviceName i (f.channelLabel c))) o ↔
      o = ⟨f.table, i, (f.catalogEntry c.quantity).column⟩ := by
  have hstored : ∀ q ∈ (PerDevice.mk f (id :: rest) channels).quantities, f.IsStored q := by
    intro q hq
    obtain ⟨c, hc, rfl⟩ := List.mem_map.1 (List.mem_eraseDups.1 hq)
    exact hs c hc
  have hq : c.quantity ∈ (PerDevice.mk f (id :: rest) channels).quantities :=
    List.mem_eraseDups.2 (List.mem_map_of_mem hc)
  have hfield : f.deviceField i (f.catalogEntry c.quantity) c.label ∈
      (PerDevice.mk f (id :: rest) channels).fields := mem_fields_iff.2 ⟨i, hi, c, hc, rfl⟩
  rw [← originates_staged_iff hf hstored hq, Statement.originates_derived_iff rfl]
  constructor
  · rintro ⟨-, n, hn, y, hy, hname, r, m, hr, e, he, hename, z, hz, ho⟩
    obtain rfl : f.deviceName i (f.channelLabel c) = n := Expr.column.inj hn
    -- Of the columns of the derived table only that of the channel has its name, and of the staged
    -- relations only those of the device have the name that it refers to.
    rcases List.mem_cons.1 hy with rfl | hy
    · rw [name_timeOf] at hname
      exact absurd hname time_ne_label
    obtain ⟨j, -, c', hc', rfl⟩ := mem_fields_iff.1 hy
    obtain ⟨rfl, hlabel⟩ := deviceLabel_inj.1 hname
    obtain rfl : c' = c := List.inj_on_of_nodup_map hl hc' hc hlabel
    obtain ⟨rfl, rfl⟩ := Expr.ref.inj hr
    obtain ⟨k, -, rfl⟩ := List.mem_map.1 he
    obtain rfl : k = j := relation_inj.1 (Option.some.inj hename)
    exact ⟨z, hz, ho⟩
  · rintro ⟨z, hz, ho⟩
    exact ⟨List.mem_cons_of_mem _ (List.mem_map_of_mem hfield), _, rfl, _,
      List.mem_cons_of_mem _ hfield, rfl, _, _, rfl, _, List.mem_map_of_mem hi, rfl, z, hz, ho⟩

theorem handsOn_aligned (hf : f ∈ all) (hs : ∀ c ∈ channels, f.IsStored c.quantity)
    (hl : (channels.map f.channelLabel).Nodup) :
    List.Forall₂ ((f.aligned id rest (PerDevice.mk f (id :: rest) channels).quantities).compute
        (PerDevice.mk f (id :: rest) channels).fields).statement.HandsOn
      ((PerDevice.mk f (id :: rest) channels).fields.map fun x => .ofName x.name)
      (f.labelledOrigins (id :: rest) channels) := by
  rw [PerDevice.fields, List.map_flatMap]
  simp only [List.map_map]
  exact forall₂_flatMap_map fun i hi c hc => ⟨rfl, fun o => originates_aligned_iff hf hs hl hi hc⟩

/-- **Columns of each device keep to their channels.** -/
theorem handsOn_labelled (hf : f ∈ all) (hs : ∀ c ∈ channels, f.IsStored c.quantity)
    (hl : (channels.map f.channelLabel).Nodup) (h : f.labelled ids channels = .ok s) :
    ∃ fields, s.fields = .time :: fields ∧
      List.Forall₂ s.HandsOn fields (f.labelledOrigins ids channels) := by
  obtain ⟨-, ⟨id, rfl, rfl⟩ | ⟨id, rest, rfl, rfl⟩⟩ := labelled_cases h
  · exact ⟨_, rfl, handsOn_ordered hf hs⟩
  · exact ⟨_, rfl, handsOn_aligned hf hs hl⟩

/-- A derived table has the columns that are selected from it. -/
theorem names_derived_labelled (h : f.labelled ids channels = .ok s) {c : Chain} {name : String}
    (hs : s.source = some (.derived c name)) : c.fields.map (·.name) = s.fields.map (·.name) := by
  obtain ⟨-, ⟨id, rfl, rfl⟩ | ⟨id, rest, rfl, rfl⟩⟩ := labelled_cases h
  · simp [scan, Statement.inWindow, Statement.ordered, Statement.restrict] at hs
  · obtain ⟨rfl, -⟩ := Source.derived.inj (Option.some.inj hs)
    exact Alignment.names_statement.symm

theorem exprs_staged : (f.staged qs id).fields.map (·.expr) =
    .column timeColumn :: qs.map fun q => (f.catalogEntry q).expr :=
  congrArg (_ :: ·) List.map_map

/-- **Nothing but the time and the channels is scanned**, if no quantity is chosen twice. -/
theorem exprs_scans_labelled (hn : (channels.map (·.quantity)).Nodup)
    (h : f.labelled ids channels = .ok s) : ∀ t ∈ s.scans, t.fields.map (·.expr) =
      .column timeColumn :: channels.map fun c => (f.catalogEntry c.quantity).expr := by
  intro t ht
  obtain ⟨ht, hscan⟩ := List.mem_filter.1 ht
  obtain ⟨-, ⟨id, rfl, rfl⟩ | ⟨id, rest, rfl, rfl⟩⟩ := labelled_cases h
  · obtain rfl := List.mem_singleton.1 ht
    exact congrArg (_ :: ·) List.map_map
  · rcases List.mem_append.1 ht with ht | ht
    · obtain ⟨i, -, rfl⟩ := List.mem_map.1 ht
      have hquantities : (PerDevice.mk f (id :: rest) channels).quantities =
          channels.map (·.quantity) := eraseDups_eq_self hn
      rw [exprs_staged, hquantities, List.map_map]
      rfl
    · obtain rfl := List.mem_singleton.1 ht
      exact absurd (hscan : false = true) Bool.false_ne_true

end Family

/-! ## Weather stations -/

namespace Weather
variable {ids : List ℕ} {labels : List String}

/-- The physical column of an auxiliary channel. -/
def channelColumn (n : ℕ) : String :=
  "temp" ++ toString n ++ "_c"

/-- What is shown of every station, with the physical columns: the outdoor temperature, and for each
    label that is not blank the channel at its position. -/
def shownColumns (labels : List String) : List (String × String) :=
  ("temp_c", "temp_c") :: (Labels.numbered 1 labels).map fun p => (p.1, channelColumn p.2)

/-- The columns of a station, with what they hold. -/
def stationColumns (labels : List String) (id : ℕ) : List (String × Origin) :=
  (shownColumns labels).map fun p =>
    ("weather" ++ toString id ++ "." ++ p.1, ⟨"weather", id, p.2⟩)

theorem channels_eq : channels labels = { quantity := .temperature } ::
    (Labels.numbered 1 labels).map fun p => { quantity := .channel p.2, label := some p.1 } :=
  congrArg (_ :: ·) (labelledChannels_eq 1)

theorem nodup_quantity_channels : ((channels labels).map (·.quantity)).Nodup := by
  rw [channels_eq, List.map_cons, List.map_map, List.nodup_cons]
  constructor
  · simp
  · have hpositions : ((Labels.numbered 1 labels).map (·.2)).map Quantity.channel =
        (Labels.numbered 1 labels).map fun p => Quantity.channel p.2 := List.map_map
    refine hpositions ▸ Labels.nodup_positions.map fun m n h => ?_
    simpa using h

/-- All columns of a station are physical. -/
theorem isStored {q : Quantity} (h : Family.weather.Declares q) : Family.weather.IsStored q := by
  have hall : ∀ e ∈ Family.weather.catalog, e.expr = .column e.column := by decide
  exact hall _ (Family.catalogEntry_mem h)

theorem column_channel {n : ℕ} (hle : 1 ≤ n) (hlt : n < 1 + channelCount) :
    (Family.weather.catalogEntry (.channel n)).column = channelColumn n := by
  have hall : ∀ i < channelCount,
      (Family.weather.catalogEntry (.channel (1 + i))).column = channelColumn (1 + i) := by decide
  obtain ⟨i, rfl⟩ := Nat.exists_eq_add_of_le hle
  exact hall i (by omega)

/-- The channels of accepted labels are what is shown. -/
theorem map_channels (h : Labels.check labels = .ok ()) :
    (channels labels).map (fun c =>
      (Family.weather.channelLabel c, (Family.weather.catalogEntry c.quantity).column)) =
      shownColumns labels := by
  rw [channels_eq, List.map_cons, List.map_map]
  refine congrArg (_ :: ·) (List.map_congr_left fun p hp => congrArg (p.1, ·) ?_)
  obtain ⟨hle, hlt⟩ := Labels.position_of_mem_numbered hp
  have hlength := (Labels.check_eq_ok_iff.1 h).1
  exact column_channel hle (by omega)

/-- **Labels stay with their channels.**  Of any stations, with any labels that are accepted, the
    statement selects the time, and then for each station in order the outdoor temperature and the
    channels at the positions whose labels are not blank, under these labels.  Each of these columns
    holds the channel at its position, of its station, unchanged.  Every station is scanned for
    these columns alone, and a derived table has those that are selected from it. -/
theorem labels_follow_channels (hids : ids ≠ []) (h : Labels.check labels = .ok ()) :
    ∃ s fields, temperatures ids labels = .ok s ∧ s.fields = .time :: fields ∧
      List.Forall₂ s.HandsOn fields (ids.flatMap (stationColumns labels)) ∧
      (∀ c name, s.source = some (.derived c name) →
        c.fields.map (·.name) = s.fields.map (·.name)) ∧
      Draws none (Family.weather.devices ids) s ∧
      ∀ t ∈ s.scans, t.fields.map (·.expr) =
        (timeColumn :: (shownColumns labels).map (·.2)).map fun column => .column column := by
  have hf : Family.weather ∈ Family.all := by decide
  obtain ⟨s, hlabelled, -⟩ :=
    Family.outputs_labelled hf hids fun c hc => (channel_of_check h c hc).1
  have hs : temperatures ids labels = .ok s := by rwa [temperatures, h]
  have hstored : ∀ c ∈ channels labels, Family.weather.IsStored c.quantity :=
    fun c hc => isStored (channel_of_check h c hc).1.2
  obtain ⟨fields, htime, hfields⟩ :=
    Family.handsOn_labelled hf hstored (nodup_channelLabel h) hlabelled
  refine ⟨s, fields, hs, htime, ?_, fun c name => Family.names_derived_labelled hlabelled,
    draws_temperatures hs, fun t ht => ?_⟩
  · have hcolumns : Family.weather.labelledOrigins ids (channels labels) =
        ids.flatMap (stationColumns labels) := by
      refine List.flatMap_congr fun id _ => ?_
      rw [stationColumns, ← map_channels h, List.map_map]
      rfl
    rwa [← hcolumns]
  · rw [Family.exprs_scans_labelled nodup_quantity_channels hlabelled t ht, ← map_channels h,
      List.map_map, List.map_cons, List.map_map]
    exact congrArg (_ :: ·) (List.map_congr_left hstored)

/-- Two stations, with a label that hides its channel and one with blanks around it. -/
theorem labels_follow_channels_attic :
    Labels.check ["", " attic "] = .ok () ∧
      ∃ s fields, temperatures [7, 2] ["", " attic "] = .ok s ∧ s.fields = .time :: fields ∧
        List.Forall₂ s.HandsOn fields
          [("weather7.temp_c", ⟨"weather", 7, "temp_c"⟩),
            ("weather7.attic", ⟨"weather", 7, "temp2_c"⟩),
            ("weather2.temp_c", ⟨"weather", 2, "temp_c"⟩),
            ("weather2.attic", ⟨"weather", 2, "temp2_c"⟩)] := by
  have hcheck : Labels.check ["", " attic "] = .ok () := by decide
  have hids : [7, 2] ≠ [] := by decide
  obtain ⟨s, fields, hs, htime, hfields, -⟩ := labels_follow_channels hids hcheck
  exact ⟨hcheck, s, fields, hs, htime, hfields⟩

end Weather

end EnergyQuery
