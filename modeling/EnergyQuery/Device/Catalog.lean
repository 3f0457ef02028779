/-
  The device families of a house, with their catalogs.

  Generators meter electrical output only: their heat is the output times
  `heatFactor`.  Heat pumps store their coefficient of performance in percent
  and report it as a ratio.  A battery's power is positive while it charges, a
  grid meter's while it imports; a bidirectional meter keeps separate counters
  for import and export.
-/
import EnergyQuery.Device.Family

namespace EnergyQuery

open Sql

namespace Catalog

/-- The span of a physical counter over the rows of a window. -/
def span (counter : String) : Expr :=
  .sub (.max (.column counter)) (.min (.column counter))

/-- Power, a cumulative energy counter, and the energy over the window. -/
def metered : List Entry :=
  [.physical .power "power_w", .physical .energy "energy_wh",
    ⟨.windowEnergy, span "energy_wh", "d_energy_wh"⟩]

/-- The heat that a generator gives per unit of electrical output. -/
def heatFactor : Expr :=
  .number 693348 5

end Catalog

namespace Family

open Catalog

/-- A family of plain meters on `table`. -/
def metering (basename table : String) : Family :=
  ⟨basename, table, metered⟩

/-- Solar inverters. -/
def solar : Family := metering "solar" "solar"

/-- Combined heat and power generators. -/
def generator : Family where
  basename := "generator"
  table := "generator"
  catalog :=
    [.physical .power "power_w", .physical .energy "energy_wh",
      ⟨.heat, .mul (.column "power_w") heatFactor, "heat_w"⟩,
      ⟨.heatEnergy, .mul (.column "energy_wh") heatFactor, "heat_wh"⟩,
      ⟨.windowEnergy, span "energy_wh", "d_energy_wh"⟩,
      ⟨.windowHeat, .mul (span "energy_wh") heatFactor, "d_heat_wh"⟩]

/-- Heat pumps, which store their heat as a counter only. -/
def heatpump : Family where
  basename := "heatpump"
  table := "heatpump"
  catalog :=
    [.physical .power "power_w", .physical .energy "energy_wh",
      ⟨.heat, .div (.mul (.column "power_w") (.column "cop_pct")) (.number 1000 1), "heat_w"⟩,
      .physical .heatEnergy "heat_wh",
      ⟨.cop, .div (.column "cop_pct") (.number 1000 1), "cop"⟩,
      ⟨.windowEnergy, span "energy_wh", "d_energy_wh"⟩,
      ⟨.windowHeat, span "heat_wh", "d_heat_wh"⟩]

/-- Batteries, with the charge that they hold. -/
def battery : Family where
  basename := "battery"
  table := "battery"
  catalog :=
    [.physical .power "power_w", .physical .charge "charge_wh", .physical .level "level_pct"]

/-- Grid meters that count in one direction. -/
def meter : Family := metering "meter" "meter"

/-- Car chargers. -/
def wallbox : Family := metering "wallbox" "wallbox"

/-- Grid meters with signed power and separate counters for import and export. -/
def bidirMeter : Family where
  basename := "bidir"
  table := "bidir_meter"
  catalog :=
    [.physical .power "power_w",
      ⟨.powerIn, .positivePart (.column "power_w"), "power_in_w"⟩,
      ⟨.powerOut, .positivePart (.neg (.column "power_w")), "power_out_w"⟩,
      .physical .energyIn "energy_in_wh", .physical .energyOut "energy_out_wh",
      ⟨.windowEnergyIn, span "energy_in_wh", "d_energy_in_wh"⟩,
      ⟨.windowEnergyOut, span "energy_out_wh", "d_energy_out_wh"⟩]

/-- Hot water boilers with three temperature sensors. -/
def boiler : Family where
  basename := "boiler"
  table := "boiler"
  catalog := [.physical .top "top", .physical .mid "mid", .physical .bot "bot"]

/-- Weather stations with seven auxiliary temperature channels. -/
def weather : Family where
  basename := "weather"
  table := "weather"
  catalog :=
    [.physical .temperature "temp_c", .physical .humidity "humidity_pct", .physical .rain "rain_mm",
      .physical .wind "wind_ms", .physical (.channel 1) "temp1_c", .physical (.channel 2) "temp2_c",
      .physical (.channel 3) "temp3_c", .physical (.channel 4) "temp4_c",
      .physical (.channel 5) "temp5_c", .physical (.channel 6) "temp6_c",
      .physical (.channel 7) "temp7_c"]

/-- The families of a house. -/
def all : List Family :=
  [solar, generator, heatpump, battery, meter, wallbox, bidirMeter, boiler, weather]

end Family

end EnergyQuery
