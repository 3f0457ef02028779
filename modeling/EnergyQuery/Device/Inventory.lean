/-
  The devices of a house: ids per family, and the labels of the weather
  channels.

  `Devices.check` accepts an inventory whose labels are sound and which lists
  no device twice within a family; otherwise it reports the first fault, the
  labels before the families, and the families in the order of `Devices.lists`.
-/
import EnergyQuery.Device.Labels

namespace EnergyQuery

/-- Device ids per family; an empty list leaves the family out. -/
structure Devices where
  solars : List Nat := []
  generators : List Nat := []
  heatpumps : List Nat := []
  batteries : List Nat := []
  meters : List Nat := []
  wallboxes : List Nat := []
  weathers : List Nat := []
  boilers : List Nat := []
  bidirMeters : List Nat := []
  /-- Labels of the weather channels, by position; a blank label hides its channel. -/
  weatherLabels : List String := []
  deriving DecidableEq, Repr

/-- Why an inventory is refused. -/
inductive DeviceFault where
  | tooManyLabels (count : Nat)
  | labels (f : LabelFault)
  | repeated (key : String) (id : Nat)
  deriving DecidableEq, Repr

/-- What is reported of an inventory that is refused. -/
def DeviceFault.message : DeviceFault → String
  | tooManyLabels count =>
    "weather_labels has " ++ toString count ++ " entries, at most " ++ toString channelCount ++
      " are supported"
  | labels f => f.message
  | repeated key id => key ++ " lists device " ++ toString id ++ " more than once"

/-- The first member that already stands before it, given the members `seen` before the list. -/
def firstRepeated (seen : List Nat) : List Nat → Option Nat
  | [] => none
  | id :: more => if seen.contains id then some id else firstRepeated (id :: seen) more

namespace Devices

/-- The ids of each family under its configuration key. -/
def lists (d : Devices) : List (String × List Nat) :=
  [("solars", d.solars), ("generators", d.generators), ("heatpumps", d.heatpumps),
    ("batteries", d.batteries), ("meters", d.meters), ("wallboxes", d.wallboxes),
    ("weathers", d.weathers), ("boilers", d.boilers), ("bidir_meters", d.bidirMeters)]

/-- No family has a device. -/
def isEmpty (d : Devices) : Bool :=
  d.lists.all (·.2.isEmpty)

/-- No family lists a device twice. -/
def checkLists : List (String × List Nat) → Except DeviceFault Unit
  | [] => .ok ()
  | (key, ids) :: more =>
    match firstRepeated [] ids with
    | some id => .error (.repeated key id)
    | none => checkLists more

/-- The first fault of the labels, their count first. -/
def checkLabels (labels : List String) : Except DeviceFault Unit :=
  if labels.length > channelCount then .error (.tooManyLabels labels.length)
  else (Labels.check labels).mapError .labels

/-- Accepts sound labels and families without repeated devices. -/
def check (d : Devices) : Except DeviceFault Unit := do
  checkLabels d.weatherLabels
  checkLists d.lists

end Devices

end EnergyQuery
