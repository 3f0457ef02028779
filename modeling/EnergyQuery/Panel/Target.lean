/-
  Targets: the queries of a panel, each under the name by which the dashboard
  matches its results.

  Families without devices contribute nothing, so a panel of a house without
  the devices it draws on has no target.
-/
import EnergyQuery.Panel.Kind
import EnergyQuery.Panel.RefId
import EnergyQuery.Query.Buckets
import EnergyQuery.Query.House
import EnergyQuery.Time.Placeholder

namespace EnergyQuery

open Sql

/-- How the dashboard reads the rows of a target. -/
inductive Format where
  | timeSeries
  | table
  deriving DecidableEq, Repr

namespace Format

/-- The name of a format in the dashboard's data. -/
def key : Format → String
  | timeSeries => "time_series"
  | table => "table"

/-- The name of a format in comments. -/
def title : Format → String
  | timeSeries => "TimeSeries"
  | table => "Table"

end Format

/-- A statement of a panel, the name that its results are matched by, and how they are read. -/
structure Target where
  refId : String
  statement : Statement
  format : Format

/-- The text of a target, with its placeholders replaced if a range is given. -/
def Target.sql (t : Target) (range : Option TimeRange) : Except UnnamedCte String := do
  let sql ← t.statement.render
  match range with
  | none => return sql
  | some r => return Placeholder.expand r sql

/-- A query that a panel shows if `present`. -/
structure Query where
  present : Bool
  format : Format
  statement : Composed Statement

namespace Query

/-- A time series over the devices of a family, shown if there are any. -/
def series (ids : List Nat) (statement : List Nat → Composed Statement) : Query :=
  ⟨!ids.isEmpty, .timeSeries, statement ids⟩

/-- A table over the devices of a family, shown if there are any. -/
def table (ids : List Nat) (statement : List Nat → Composed Statement) : Query :=
  ⟨!ids.isEmpty, .table, statement ids⟩

end Query

namespace Panel

/-- Totals per bucket of every metered family. -/
def bucketQueries (b : Buckets) (d : Devices) : List Query :=
  [.series d.solars (b.total .solar · .windowEnergy),
    .series d.generators (b.total .generator · .windowEnergy),
    .series d.meters (b.total .meter · .windowEnergy),
    .series d.wallboxes (b.total .wallbox · .windowEnergy),
    .series d.heatpumps (b.total .heatpump · .windowHeat)]

/-- The queries of a panel, in the order of their names; each is shown where it has a device. -/
def queries (p : Panel) (d : Devices) : List Query :=
  let produces := !d.solars.isEmpty || !d.generators.isEmpty
  let heats := !d.heatpumps.isEmpty || !d.generators.isEmpty
  match p with
  | power =>
    [⟨produces, .timeSeries, Production.power d.solars d.generators⟩,
      ⟨!(Consumption.combination d).isEmpty, .timeSeries, Consumption.power d⟩,
      .series d.heatpumps Family.heatpump.totalPower,
      .series d.wallboxes Family.wallbox.totalPower,
      .series d.batteries Family.battery.totalPower,
      .series d.bidirMeters BidirMeter.power]
  | heat =>
    [⟨heats, .timeSeries, Heating.heat d.heatpumps d.generators⟩,
      .series d.boilers Boiler.temperatures]
  | energy =>
    [⟨produces, .table, Production.energy d.solars d.generators⟩,
      ⟨heats, .table, Heating.energy d.heatpumps d.generators⟩,
      .table d.meters Family.meter.totalEnergy,
      .table d.wallboxes Family.wallbox.totalEnergy,
      .table d.bidirMeters BidirMeter.totalEnergyIn,
      .table d.bidirMeters BidirMeter.totalEnergyOut]
  | battery =>
    [.series d.batteries Battery.charge, .series d.batteries Battery.level,
      .series d.batteries Family.battery.power]
  | boiler => [.series d.boilers Boiler.temperatures]
  | weather =>
    [.series d.weathers (Weather.temperatures · d.weatherLabels),
      .series d.weathers Weather.humidity, .series d.weathers Weather.rain,
      .series d.weathers Weather.wind]
  | solar =>
    [.series d.solars Family.solar.power, .series d.solars Family.solar.totalPower,
      .table d.solars Family.solar.energy, .table d.solars Family.solar.totalEnergy]
  | generator =>
    [.series d.generators Family.generator.power,
      .series d.generators Family.generator.totalPower,
      .series d.generators Generator.heat,
      .table d.generators Family.generator.totalEnergy,
      .table d.generators Family.generator.totalHeatEnergy]
  | heatpump =>
    [.series d.heatpumps Heatpump.all, .series d.heatpumps Heatpump.totalHeat,
      .table d.heatpumps Family.heatpump.totalEnergy,
      .table d.heatpumps Family.heatpump.totalHeatEnergy]
  | grid =>
    [.series d.meters Family.meter.power, .series d.meters Family.meter.totalPower,
      .series d.bidirMeters Family.bidirMeter.totalPower]
  | wallbox =>
    [.series d.wallboxes Family.wallbox.power, .table d.wallboxes Family.wallbox.energy]
  | monthly => bucketQueries .monthly d
  | daily => bucketQueries .daily d

/-- The targets of a panel: the queries it shows, named in their order. -/
def targets (p : Panel) (d : Devices) : Composed (List Target) := do
  let shown ← ((p.queries d).filter (·.present)).mapM fun q => do return (← q.statement, q.format)
  return shown.mapIdx fun i (s, format) => ⟨RefId.ofIndex i, s, format⟩

end Panel

end EnergyQuery
