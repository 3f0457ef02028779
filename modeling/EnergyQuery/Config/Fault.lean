/-
  Faults of the configuration.

  Each constructor is a cause; `ConfigFault.message` is its wording.
-/
import EnergyQuery.Config.Environment
import EnergyQuery.Device.Inventory
import EnergyQuery.Time.Range
import EnergyQuery.Toml.Value

namespace EnergyQuery

/-- Why a configuration is refused. -/
inductive ConfigFault where
  | notFound (path : String)
  | unreadable (reason : String)
  | document (f : Toml.Fault)
  /-- A key holds a value of the wrong kind, or lacks one. -/
  | unsuitable (key : String)
  | missingVariable (f : MissingVariable)
  | range (f : RangeFault)
  | noRange
  | devices (f : DeviceFault)
  deriving DecidableEq, Repr

namespace ConfigFault

/-- The wording of all faults of the text of a configuration, up to the reason. -/
def parseHeading : String := "Failed to parse config file:"

/-- What is reported of a configuration that is refused. -/
def message : ConfigFault → String
  | notFound path => "Config file not found: " ++ path
  | unreadable reason => "Failed to read config file: " ++ reason
  | document f => parseHeading ++ " " ++ f.message
  | unsuitable key => parseHeading ++ " key '" ++ key ++ "' has no suitable value"
  | missingVariable f => "Missing environment variable: " ++ f.name
  | range f => "Invalid time range: " ++ f.message
  | noRange => "No [time_range] configured"
  | devices f => "Invalid configuration: " ++ f.message

end ConfigFault

end EnergyQuery
