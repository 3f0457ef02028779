/-
  The panels that a dashboard offers.
-/
import EnergyQuery.Text.Blank

namespace EnergyQuery

/-- A panel: some queries about a house that are shown together. -/
inductive Panel where
  | power
  | heat
  | energy
  | battery
  | boiler
  | weather
  | solar
  | generator
  | heatpump
  | grid
  | wallbox
  | monthly
  | daily
  deriving DecidableEq, Repr

/-- A text that names no panel. -/
structure UnknownPanel where
  text : String
  deriving DecidableEq, Repr

namespace Panel

/-- Every panel, in the order in which they are offered. -/
def all : List Panel :=
  [power, heat, energy, battery, boiler, weather, solar, generator, heatpump, grid, wallbox,
    monthly, daily]

/-- The name by which a panel is asked for. -/
def name : Panel → String
  | power => "power"
  | heat => "heat"
  | energy => "energy"
  | battery => "battery"
  | boiler => "boiler"
  | weather => "weather"
  | solar => "solar"
  | generator => "generator"
  | heatpump => "heatpump"
  | grid => "grid"
  | wallbox => "wallbox"
  | monthly => "monthly"
  | daily => "daily"

/-- What a panel shows, for the list of panels. -/
def description : Panel → String
  | power => "production, consumption and load power"
  | heat => "heating power with heat pump COP, boiler temperatures"
  | energy => "energy and heat totals over the selected range"
  | battery => "battery charge, level and power"
  | boiler => "boiler temperatures"
  | weather => "weather station channels"
  | solar => "solar power and yield"
  | generator => "generator power, heat and totals"
  | heatpump => "heat pump power, heat and COP"
  | grid => "grid meter power"
  | wallbox => "wallbox power and energy"
  | monthly => "month-over-month energy and heat"
  | daily => "day-over-day energy and heat"

/-- The panel with the given name; blanks around it and the case of ASCII letters do not count. -/
def ofName (s : String) : Except UnknownPanel Panel :=
  let wanted := (Text.trimList s.toList).map Char.toLower
  match all.find? (fun p => p.name.toList == wanted) with
  | some p => .ok p
  | none => .error ⟨s⟩

end Panel

/-- What is reported of a text that names no panel. -/
def UnknownPanel.message (f : UnknownPanel) : String :=
  "Unknown panel '" ++ f.text ++ "', expected one of: " ++
    ", ".intercalate (Panel.all.map Panel.name)

end EnergyQuery
