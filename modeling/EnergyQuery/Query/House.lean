/-
  The combinations of a house.

    production   solar (+) generator (+)
    heating      heatpump (+) generator (+)
    consumption  meter (+) battery (-) generator (+) heatpump (-) solar (+) wallbox (-)

  Consumption is what the household draws: grid import plus on-site production,
  less what charges the batteries and what the heat pumps and car chargers use,
  which are shown on their own.
-/
import EnergyQuery.Device.Inventory
import EnergyQuery.Query.Combination
import EnergyQuery.Query.Views

namespace EnergyQuery

open Sql

namespace Production

/-- Solar inverters and generators, added. -/
def combination (solars generators : List Nat) (q : Quantity) : Combination where
  name := "production"
  contributions := [⟨.solar, solars, .plus, q, []⟩, ⟨.generator, generators, .plus, q, []⟩]

/-- Power that is produced on site. -/
def power (solars generators : List Nat) : Composed Statement :=
  (combination solars generators .power).total "power_w"

/-- Energy produced over the window. -/
def energy (solars generators : List Nat) : Composed Statement :=
  (combination solars generators .windowEnergy).windowTotal "d_energy_wh"

end Production

namespace Heating

/-- Heat pumps and generators, added, with `also` staged for the heat pumps. -/
def combination (heatpumps generators : List Nat) (q : Quantity) (also : List Quantity) :
    Combination where
  name := "heating"
  contributions := [⟨.heatpump, heatpumps, .plus, q, also⟩, ⟨.generator, generators, .plus, q, []⟩]

/-- Heat delivered, with the coefficient of performance of the heat pumps if there are any: the
    coefficient itself for a single one, the average over the running ones for several. -/
def heat (heatpumps generators : List Nat) : Composed Statement :=
  let c := combination heatpumps generators .heat [.cop]
  match heatpumps, generators with
  | [], _ => c.total "heat_w"
  | [id], [] => do
    let heat ← Family.heatpump.field .heat
    let cop ← Family.heatpump.field .cop
    let fields := [Field.time, heat.rename (c.columnName "heat_w"),
      cop.rename (Family.heatpump.familyName "cop")]
    return (Family.heatpump.scan id fields).inWindow.ordered
  | _, _ => do
    let a ← c.alignment
    return (a.compute [← c.sumField "heat_w", ← Heatpump.copField heatpumps]).statement

/-- Heat delivered over the window. -/
def energy (heatpumps generators : List Nat) : Composed Statement :=
  (combination heatpumps generators .windowHeat []).windowTotal "d_heat_wh"

end Heating

namespace Consumption

/-- Grid, generators and inverters added; batteries, heat pumps and car chargers subtracted. -/
def combination (d : Devices) : Combination where
  name := "consumption"
  contributions :=
    [⟨.meter, d.meters, .plus, .power, []⟩, ⟨.battery, d.batteries, .minus, .power, []⟩,
      ⟨.generator, d.generators, .plus, .power, []⟩, ⟨.heatpump, d.heatpumps, .minus, .power, []⟩,
      ⟨.solar, d.solars, .plus, .power, []⟩, ⟨.wallbox, d.wallboxes, .minus, .power, []⟩]

/-- Power drawn by the household. -/
def power (d : Devices) : Composed Statement :=
  (combination d).total "power_w"

end Consumption

end EnergyQuery
