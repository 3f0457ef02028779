/-
  Settings: the devices of a house and, optionally, a time range whose bounds
  may refer to the environment.

    [devices]
    solars = [1, 8]
    weather_labels = ["Garage", "", "Attic"]

    [time_range]
    from = "2024-01-01T00:00:00Z"
    to = "${DASHBOARD_TO}"

  Unknown keys are ignored, as long as their numerals have a value in range.
  Each of the two tables may also be written as an array of its values in the
  order of its keys; surplus items do not count.  A date stands for a table
  without known keys.

  * `Settings.ofText` reads settings, `Settings.check` accepts them;
  * `Settings.range` is the time range under an environment.
-/
import EnergyQuery.Config.Fault
import EnergyQuery.Toml.Document

namespace EnergyQuery

open Toml

/-- The bounds of a time range as configured. -/
structure RangeText where
  start : String
  stop : String
  deriving DecidableEq, Repr

/-- What a configuration says: the devices and, if there is one, the time range. -/
structure Settings where
  devices : Devices := {}
  timeRange : Option RangeText := none
  deriving DecidableEq, Repr

/-! ## From documents -/

namespace Toml.Value

mutual

/-- Every numeral in the value has a value, which is in range: integers have 128 bits, with or
    without a sign, and floats are finite. -/
def inRange : Value → Bool
  | integer n => -(2 ^ 127) ≤ n && n < 2 ^ 128
  | valueless => false
  | float finite => finite
  | array _ items => itemsInRange items
  | table _ entries => entriesInRange entries
  | _ => true
termination_by structural v => v

/-- Every numeral in the items is in range. -/
def itemsInRange : List Value → Bool
  | [] => true
  | v :: more => v.inRange && itemsInRange more
termination_by structural l => l

/-- Every numeral in the values of the entries is in range. -/
def entriesInRange : List (String × Value) → Bool
  | [] => true
  | (_, v) :: more => v.inRange && entriesInRange more
termination_by structural l => l

end

/-- The items of an array. -/
def items? : Value → Option (List Value)
  | array _ items => some items
  | _ => none

/-- The content of a string. -/
def text? : Value → Option String
  | string s => some s
  | _ => none

/-- A device id, which has 32 bits. -/
def id? : Value → Option Nat
  | integer n => if 0 ≤ n && n < 0x100000000 then some n.toNat else none
  | _ => none

/-- The device ids of an array that holds nothing else. -/
def ids? (v : Value) : Option (List Nat) := do
  (← v.items?).mapM id?

/-- The labels of an array that holds nothing else. -/
def labels? (v : Value) : Option (List String) := do
  (← v.items?).mapM text?

/-- The entries of a table with the given keys, also when it is written as an array or a date. -/
def entries? (keys : List String) : Value → Option Entries
  | table _ entries => some entries
  | array _ items => some (keys.zip items)
  | date => some []
  | _ => none

end Toml.Value

/-- The value of a key, which must suit it. -/
def suitable {α : Type} (key : String) (v : Option α) : Except ConfigFault α :=
  match v with
  | some a => .ok a
  | none => .error (.unsuitable key)

/-- An unknown key, which must only be in range. -/
def ignore (key : String) (v : Value) : Except ConfigFault Unit :=
  if v.inRange then .ok () else .error (.unsuitable key)

namespace Devices

/-- The keys of the devices, in the order that counts when they are written as an array. -/
def keys : List String :=
  ["solars", "generators", "heatpumps", "batteries", "meters", "wallboxes", "weathers", "boilers",
    "bidir_meters", "weather_labels"]

/-- The devices with the value of one key. -/
def set (d : Devices) (key : String) (v : Value) : Except ConfigFault Devices :=
  let ids : Except ConfigFault (List Nat) := suitable key v.ids?
  match key with
  | "solars" => do return { d with solars := ← ids }
  | "generators" => do return { d with generators := ← ids }
  | "heatpumps" => do return { d with heatpumps := ← ids }
  | "batteries" => do return { d with batteries := ← ids }
  | "meters" => do return { d with meters := ← ids }
  | "wallboxes" => do return { d with wallboxes := ← ids }
  | "weathers" => do return { d with weathers := ← ids }
  | "boilers" => do return { d with boilers := ← ids }
  | "bidir_meters" => do return { d with bidirMeters := ← ids }
  | "weather_labels" => do return { d with weatherLabels := ← suitable key v.labels? }
  | _ => do
    ignore key v
    return d

/-- The devices that a value describes; a key that is left out has no devices. -/
def ofValue (v : Value) : Except ConfigFault Devices := do
  (← suitable "devices" (v.entries? keys)).foldlM (fun d (key, v) => d.set key v) {}

end Devices

namespace RangeText

/-- The keys of the two bounds, in the order that counts when they are written as an array. -/
def keys : List String := ["from", "to"]

/-- The time range that a value describes; it needs both bounds. -/
def ofValue (v : Value) : Except ConfigFault RangeText := do
  let entries ← suitable "time_range" (v.entries? keys)
  entries.forM fun (key, v) => if keys.contains key then .ok () else ignore key v
  let start ← suitable "from" ((entries.lookup "from").bind Value.text?)
  let stop ← suitable "to" ((entries.lookup "to").bind Value.text?)
  return ⟨start, stop⟩

/-- The variables that the bounds refer to. -/
def names (r : RangeText) : List String :=
  referencedNames r.start ++ referencedNames r.stop

/-- The time range under an environment: both bounds are expanded before either is read. -/
def resolve (env : Environment) (r : RangeText) : Except ConfigFault TimeRange := do
  let start ← (env.expand r.start).mapError .missingVariable
  let stop ← (env.expand r.stop).mapError .missingVariable
  (TimeRange.ofTexts start stop).mapError .range

end RangeText

namespace Settings

/-- The settings with the value of one key. -/
def set (s : Settings) (key : String) (v : Value) : Except ConfigFault Settings :=
  match key with
  | "devices" => do return { s with devices := ← Devices.ofValue v }
  | "time_range" => do return { s with timeRange := some (← RangeText.ofValue v) }
  | _ => do
    ignore key v
    return s

/-- The settings that the text of a configuration describes. -/
def ofText (text : String) : Except ConfigFault Settings := do
  let entries ← (Document.read text).mapError .document
  entries.foldlM (fun s (key, v) => s.set key v) {}

/-- The variables that the settings refer to. -/
def names (s : Settings) : List String :=
  match s.timeRange with
  | none => []
  | some r => r.names

/-- The time range under an environment, where one is configured. -/
def range (s : Settings) (env : Environment) : Except ConfigFault TimeRange :=
  match s.timeRange with
  | none => .error .noRange
  | some r => r.resolve env

/-- Accepts sound devices and, if there is a time range, one that can be resolved. -/
def check (s : Settings) (env : Environment) : Except ConfigFault Unit := do
  s.devices.check.mapError .devices
  match s.timeRange with
  | none => return
  | some r => let _ ← r.resolve env

end Settings

end EnergyQuery
