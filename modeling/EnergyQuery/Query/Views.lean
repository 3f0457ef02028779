/-
  The statements and combined columns that a house's dashboard offers for each
  kind of device.
-/
import EnergyQuery.Query.OneFamily

namespace EnergyQuery

open Sql

namespace Family

/-- The sum of a quantity over the devices, as a column of the family. -/
def sumField (f : Family) (ids : List Nat) (q : Quantity) (label : String) : Composed Field := do
  return ⟨← f.sum ids q, f.familyName label⟩

/-- The span of a counter over the devices, as a column of the family. -/
def spanField (f : Family) (ids : List Nat) (counter : Quantity) (label : String) :
    Composed Field := do
  return ⟨← f.windowSpan ids counter, f.familyName label⟩

/-! ## Any metered family -/

/-- The combined power. -/
def powerField (f : Family) (ids : List Nat) : Composed Field :=
  f.sumField ids .power "power_w"

/-- Power of each device. -/
def power (f : Family) (ids : List Nat) : Composed Statement :=
  f.each ids [.power]

/-- Power of all devices together. -/
def totalPower (f : Family) (ids : List Nat) : Composed Statement :=
  f.total ids .power

/-- Energy of each device over the window. -/
def energy (f : Family) (ids : List Nat) : Composed Statement :=
  f.windowEach ids .windowEnergy

/-- Energy of all devices over the window. -/
def totalEnergy (f : Family) (ids : List Nat) : Composed Statement :=
  f.windowTotal ids .windowEnergy

/-- Heat of all devices over the window. -/
def totalHeatEnergy (f : Family) (ids : List Nat) : Composed Statement :=
  f.windowTotal ids .windowHeat

/-- The combined heat. -/
def heatField (f : Family) (ids : List Nat) : Composed Field :=
  f.sumField ids .heat "heat_w"

/-- The combined energy over the window. -/
def energyField (f : Family) (ids : List Nat) : Composed Field :=
  f.spanField ids .energy "d_energy_wh"

end Family

/-! ## Generators -/

namespace Generator

/-- Heat of each generator and, of several, the combined heat too. -/
def heat (ids : List Nat) : Composed Statement :=
  if ids.length < 2 then Family.generator.each ids [.heat]
  else do
    let a ← Family.generator.perDevice ids [.heat]
    return (a.compute [← Family.generator.heatField ids]).statement

end Generator

/-! ## Heat pumps -/

namespace Heatpump

/-- A heat pump whose coefficient of performance does not exceed this ratio is idle. -/
def idleRatio : Expr := .number 1 0

/-- The average coefficient of performance of the running heat pumps. -/
def copField (ids : List Nat) : Composed Field := do
  return ⟨← Family.heatpump.average ids .cop idleRatio, Family.heatpump.familyName "cop"⟩

/-- Power, heat and coefficient of performance of each heat pump and, of several, the combined
    power and heat and the average coefficient too. -/
def all (ids : List Nat) : Composed Statement :=
  let qs := [Quantity.power, .heat, .cop]
  if ids.length < 2 then Family.heatpump.each ids qs
  else do
    let a ← Family.heatpump.perDevice ids qs
    let power ← Family.heatpump.powerField ids
    let heat ← Family.heatpump.heatField ids
    return (a.compute [power, heat, ← copField ids]).statement

/-- Heat of all heat pumps together. -/
def totalHeat (ids : List Nat) : Composed Statement :=
  Family.heatpump.total ids .heat

end Heatpump

/-! ## Batteries -/

namespace Battery

/-- Charge of each battery. -/
def charge (ids : List Nat) : Composed Statement :=
  Family.battery.each ids [.charge]

/-- Charge of each battery, relative to its capacity. -/
def level (ids : List Nat) : Composed Statement :=
  Family.battery.each ids [.level]

end Battery

/-! ## Bidirectional meters -/

namespace BidirMeter

/-- Imported and exported power of each meter. -/
def power (ids : List Nat) : Composed Statement :=
  Family.bidirMeter.each ids [.powerIn, .powerOut]

/-- Energy that all meters import over the window. -/
def totalEnergyIn (ids : List Nat) : Composed Statement :=
  Family.bidirMeter.windowTotal ids .windowEnergyIn

/-- Energy that all meters export over the window. -/
def totalEnergyOut (ids : List Nat) : Composed Statement :=
  Family.bidirMeter.windowTotal ids .windowEnergyOut

end BidirMeter

/-! ## Boilers -/

namespace Boiler

/-- The three temperatures of each boiler. -/
def temperatures (ids : List Nat) : Composed Statement :=
  Family.boiler.each ids [.top, .mid, .bot]

end Boiler

/-! ## Weather stations -/

namespace Weather

/-- The channels with a label that is not blank, numbered from `n` on. -/
def labelledChannels (n : Nat) : List String → List Channel
  | [] => []
  | l :: more =>
    let label := Text.trim l
    let rest := labelledChannels (n + 1) more
    if label.isEmpty then rest else { quantity := .channel n, label := some label } :: rest

/-- The outdoor temperature and the labelled channels; labels belong to channels by position. -/
def channels (labels : List String) : List Channel :=
  { quantity := .temperature } :: labelledChannels 1 labels

/-- The outdoor temperature and every labelled channel of each station. -/
def temperatures (ids : List Nat) (labels : List String) : Composed Statement :=
  match Labels.check labels with
  | .error f => .error (.labels f)
  | .ok () => Family.weather.labelled ids (channels labels)

/-- Humidity at each station. -/
def humidity (ids : List Nat) : Composed Statement :=
  Family.weather.each ids [.humidity]

/-- Rain at each station. -/
def rain (ids : List Nat) : Composed Statement :=
  Family.weather.each ids [.rain]

/-- Wind at each station. -/
def wind (ids : List Nat) : Composed Statement :=
  Family.weather.each ids [.wind]

end Weather

end EnergyQuery
