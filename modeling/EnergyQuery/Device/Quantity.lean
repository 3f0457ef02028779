/-
  Measurable quantities.

  Some quantities are totals over the selected window.  Each of these is the
  span of a cumulative counter (`Quantity.counter`); it aggregates all rows of
  the window and so cannot stand beside `time` in a row.
-/

namespace EnergyQuery

/-- What devices measure, and the totals over the window. -/
inductive Quantity where
  /-- Instantaneous power (W). -/
  | power
  /-- Cumulative energy counter (Wh). -/
  | energy
  /-- Instantaneous heat output (W). -/
  | heat
  /-- Cumulative heat counter (Wh). -/
  | heatEnergy
  | cop
  | windowEnergy
  | windowHeat
  /-- Stored charge (Wh). -/
  | charge
  /-- Stored charge relative to the capacity (%). -/
  | level
  | powerIn
  | powerOut
  | energyIn
  | energyOut
  | windowEnergyIn
  | windowEnergyOut
  /-- Boiler temperature at the top sensor. -/
  | top
  /-- Boiler temperature at the middle sensor. -/
  | mid
  /-- Boiler temperature at the bottom sensor. -/
  | bot
  | temperature
  | humidity
  | rain
  | wind
  /-- An auxiliary temperature channel of a weather station. -/
  | channel (n : Nat)
  deriving DecidableEq, Repr

namespace Quantity

/-- The name of a quantity in faults. -/
def name : Quantity → String
  | power => "Power"
  | energy => "Energy"
  | heat => "Heat"
  | heatEnergy => "HeatEnergy"
  | cop => "Cop"
  | windowEnergy => "DEnergy"
  | windowHeat => "DHeat"
  | charge => "Charge"
  | level => "Level"
  | powerIn => "PowerIn"
  | powerOut => "PowerOut"
  | energyIn => "EnergyIn"
  | energyOut => "EnergyOut"
  | windowEnergyIn => "DEnergyIn"
  | windowEnergyOut => "DEnergyOut"
  | top => "Top"
  | mid => "Mid"
  | bot => "Bot"
  | temperature => "Temperature"
  | humidity => "Humidity"
  | rain => "Rain"
  | wind => "Wind"
  | channel n => "Channel(" ++ toString n ++ ")"

/-- The cumulative counter whose span over the window is this quantity. -/
def counter : Quantity → Option Quantity
  | windowEnergy => some energy
  | windowHeat => some heatEnergy
  | windowEnergyIn => some energyIn
  | windowEnergyOut => some energyOut
  | _ => none

/-- The quantity is a total over the window. -/
def isWindowTotal (q : Quantity) : Bool :=
  q.counter.isSome

/-- The quantity that rows are staged with: the counter of a window total, else the quantity
    itself. -/
def staged (q : Quantity) : Quantity :=
  q.counter.getD q

/-- The quantity named `s` among all but the channels. -/
def ofName? (s : String) : Option Quantity :=
  [power, energy, heat, heatEnergy, cop, windowEnergy, windowHeat, charge, level, powerIn, powerOut,
    energyIn, energyOut, windowEnergyIn, windowEnergyOut, top, mid, bot, temperature, humidity,
    rain, wind].find? (·.name == s)

end Quantity

end EnergyQuery
