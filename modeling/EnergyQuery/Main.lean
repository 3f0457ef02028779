/-
  The program: the command line on the variables and files of the machine.
-/
import EnergyQuery.Cli.Run

open EnergyQuery

/-- What stands at a path below the working directory; no file has an empty path. -/
def fileAt (path : String) : IO File := do
  if path.isEmpty then return .missing
  let place := (← IO.currentDir) / path
  if !(← place.pathExists) then return .missing
  if ← place.isDir then return .directory
  try
    return .content (← IO.FS.readBinFile place)
  catch e => return .unreadable (toString e)

/-- The variables and files of the machine. -/
def machine : Host IO where
  readVariable name := if isVariableName name then IO.getEnv name else return none
  file := fileAt

/-- Runs the command that the arguments stand for. -/
def main (args : List String) : IO UInt32 := do
  let outcome ← machine.run args
  IO.print outcome.stdout
  IO.eprint outcome.stderr
  return outcome.exit.toUInt32
