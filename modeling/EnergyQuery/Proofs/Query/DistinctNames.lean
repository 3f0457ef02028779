/-
  The names of a house tell its devices apart.

  Statements name the readings of a device in three ways: the staged relation,
  and the two names under which it is looked up for buckets.  Output columns are
  named by a word, that of a device, a family or a combination, and by a label
  behind a point, which may hold any text.

  * `Readings.scopeName_inj`, `Readings.scopeName_not_mem`: a name of readings
    gives back the device and the way in which it is read, and is none of the
    other relations that statements have;
  * `IsWord.append_point_inj`: the word before the point ends there, whatever the
    label holds, and `Name.text_quoted_inj` says that quoting keeps names apart;
  * `naming_injective`: relations and output columns of different devices have
    different names.
-/
import EnergyQuery.Proofs.Query.Scoping
import EnergyQuery.Proofs.Query.Spelling
import EnergyQuery.Proofs.Sql.Quoting
import EnergyQuery.Query.House

namespace EnergyQuery

open Sql

/-! ## Relations in scope -/

/-- The readings of a device that a statement refers to. -/
inductive Readings where
  /-- All that are staged. -/
  | staged
  /-- Those at the instants of the buckets. -/
  | start
  /-- Those at the instants of the following buckets. -/
  | next
  deriving DecidableEq, Repr

namespace Readings
variable {f g : Family} {i j : ℕ} {r s : Readings}

/-- The name under which the readings are in scope. -/
def scopeName (f : Family) (id : ℕ) : Readings → String
  | staged => f.relation id
  | start => Buckets.startOf f id
  | next => Buckets.nextOf f id

/-- What follows the relation in the name. -/
def suffix : Readings → String
  | staged => ""
  | start => "_start"
  | next => "_next"

theorem scopeName_eq : r.scopeName f i = f.relation i ++ r.suffix := by
  cases r with
  | staged => exact (String.append_empty).symm
  | start => rfl
  | next => rfl

theorem suffix_inj : r.suffix = s.suffix ↔ r = s := by
  cases r <;> cases s <;> decide

theorem stops_suffix : Stops Char.isDigit r.suffix.toList := by
  cases r <;> decide

/-- **A name of readings tells the device and which of its readings they are.** -/
theorem scopeName_inj (hf : f ∈ Family.all) (hg : g ∈ Family.all) :
    r.scopeName f i = s.scopeName g j ↔ f = g ∧ i = j ∧ r = s := by
  rw [scopeName_eq, scopeName_eq,
    Family.relation_append_inj_of_mem_all hf hg stops_suffix stops_suffix, suffix_inj]

/-- No other relation of a statement has the name of readings: it would hold a digit. -/
theorem scopeName_not_mem : r.scopeName f i ∉ Buckets.relation :: derivedName :: houseTables := by
  have hfree : ∀ n ∈ Buckets.relation :: derivedName :: houseTables, digitFree n = true := by decide
  intro hmem
  exact Family.relation_append_ne_of_digitFree (hfree _ hmem) scopeName_eq.symm

end Readings

/-! ## Output columns -/

/-- **A word before a point is told from what follows**, which may hold points too. -/
theorem Sql.IsWord.append_point_inj {s t l k : String} (hs : IsWord s) (ht : IsWord t) :
    s ++ "." ++ l = t ++ "." ++ k ↔ s = t ∧ l = k := by
  rw [String.append_assoc, String.append_assoc,
    append_inj_of_stops (List.all_eq_true.1 hs) (List.all_eq_true.1 ht) (stops_point rfl l)
      (stops_point rfl k), String.append_right_inj]

theorem Sql.Name.text_quoted_inj {s t : String} :
    (Name.quoted s).text = (Name.quoted t).text ↔ s = t :=
  (quoted_injective '"').eq_iff

namespace Family
variable {f g : Family} {i j : ℕ} {l k : String}

/-- The column of a device tells the device and the label. -/
theorem deviceName_inj (hf : f ∈ all) (hg : g ∈ all) :
    (f.deviceName i l).text = (g.deviceName j k).text ↔ f = g ∧ i = j ∧ l = k := by
  rw [deviceName, deviceName, Name.text_quoted_inj,
    (isWord_relation hf).append_point_inj (isWord_relation hg), relation_inj_of_mem_all hf hg,
    and_assoc]

/-- A name that starts with a word without digits is not that of a device's column. -/
theorem deviceName_ne {s : String} (hf : f ∈ all) (hs : IsWord s) (hfree : digitFree s = true) :
    (f.deviceName i l).text ≠ (Name.quoted (s ++ "." ++ k)).text := by
  intro h
  rw [deviceName, Name.text_quoted_inj, (isWord_relation hf).append_point_inj hs] at h
  exact relation_ne_of_digitFree hfree h.1

end Family

/-- The combinations that a house shows. -/
inductive Combination.OfHouse : Combination → Prop
  | production (solars generators : List ℕ) (q : Quantity) :
    OfHouse (Production.combination solars generators q)
  | heating (heatpumps generators : List ℕ) (q : Quantity) (also : List Quantity) :
    OfHouse (Heating.combination heatpumps generators q also)
  | consumption (d : Devices) : OfHouse (Consumption.combination d)

theorem Combination.OfHouse.name_sound {c : Combination} (h : c.OfHouse) :
    IsWord c.name ∧ digitFree c.name = true := by
  cases h with
  | production => exact (by decide : IsWord "production" ∧ digitFree "production" = true)
  | heating => exact (by decide : IsWord "heating" ∧ digitFree "heating" = true)
  | consumption => exact (by decide : IsWord "consumption" ∧ digitFree "consumption" = true)

/-- **The names of a house tell its devices apart.**  A relation gives back its family and its
    number, also as it is looked up for buckets, and is neither the relation of the buckets nor the
    derived table nor a table of the house.  As it is written in a statement, the column of a device
    gives back the device and the label, and is neither a column of a whole family nor one of a
    combination, whatever the labels hold. -/
theorem naming_injective {f g : Family} (hf : f ∈ Family.all) (hg : g ∈ Family.all) (i j : ℕ) :
    (f.relation i = g.relation j ↔ f = g ∧ i = j) ∧
    (∀ l k : String,
      ((f.deviceName i l).text = (g.deviceName j k).text ↔ f = g ∧ i = j ∧ l = k) ∧
      (f.deviceName i l).text ≠ (g.familyName k).text ∧
      ∀ c : Combination, c.OfHouse → (f.deviceName i l).text ≠ (c.columnName k).text) ∧
    (∀ r s : Readings, r.scopeName f i = s.scopeName g j ↔ f = g ∧ i = j ∧ r = s) ∧
    ∀ r : Readings, r.scopeName f i ∉ Buckets.relation :: derivedName :: houseTables := by
  refine ⟨Family.relation_inj_of_mem_all hf hg, fun l k => ⟨Family.deviceName_inj hf hg, ?_, ?_⟩,
    fun r s => Readings.scopeName_inj hf hg, fun r => Readings.scopeName_not_mem⟩
  · exact Family.deviceName_ne hf (Family.isWord_names g hg).1 (Family.digitFree_basename g hg)
  · intro c hc
    obtain ⟨hword, hfree⟩ := hc.name_sound
    exact Family.deviceName_ne hf hword hfree

/-- Two inverters, one with a label that goes on with a digit, and one with a label that closes the
    quotes and goes on like the column of the other. -/
theorem naming_injective_inverters :
    Family.solar ∈ Family.all ∧
      Family.solar.relation 1 ≠ Family.solar.relation 12 ∧
      (Family.solar.deviceName 1 "2.power_w").text ≠
        (Family.solar.deviceName 12 "power_w").text ∧
      (Family.solar.deviceName 1 "x\", \"solar12.power_w").text ≠
        (Family.solar.deviceName 12 "power_w").text ∧
      (Family.solar.deviceName 1 "power_w").text ≠ (Family.solar.familyName "1.power_w").text ∧
      (Family.solar.deviceName 1 "power_w").text ≠
        ((Production.combination [1, 12] [] .power).columnName "power_w").text ∧
      Buckets.startOf .solar 1 ≠ Buckets.nextOf .solar 1 ∧
      Buckets.startOf .solar 1 ∉ ["samples", "proxy", "solar", "generator", "heatpump", "battery",
        "meter", "wallbox", "bidir_meter", "boiler", "weather"] := by
  have hsolar : Family.solar ∈ Family.all := by decide
  obtain ⟨hrelation, hcolumns, -, -⟩ := naming_injective hsolar hsolar 1 12
  obtain ⟨-, -, hreadings, hother⟩ := naming_injective hsolar hsolar 1 1
  refine ⟨hsolar, fun h => ?_, fun h => ?_, fun h => ?_, (hcolumns _ _).2.1,
    (hcolumns _ _).2.2 _ (.production [1, 12] [] .power), fun h => ?_, hother .start⟩
  · exact absurd (hrelation.1 h).2 (by decide)
  · exact absurd ((hcolumns _ _).1.1 h).2.1 (by decide)
  · exact absurd ((hcolumns _ _).1.1 h).2.1 (by decide)
  · exact absurd ((hreadings .start .next).1 h).2.2 (by decide)

end EnergyQuery
