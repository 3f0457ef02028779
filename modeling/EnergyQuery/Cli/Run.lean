/-
  Running a command.

  What a command needs from outside is a `Host`: variables and files.  All else
  is pure: `renderPanel` is the text that `render` prints, `report` what
  `validate` says.

  The configuration is the file named on the command line, else the one that
  the variable `KILOWATT_CONFIG` names, else `kilowatt.toml`, else the file of
  the user; without any of them nothing is configured.
-/
import EnergyQuery.Cli.Arguments
import EnergyQuery.Config.Settings
import EnergyQuery.Panel.Target
import EnergyQuery.Text.Json

namespace EnergyQuery

open Sql

/-! ## Printing a panel -/

/-- Why a panel is not printed. -/
inductive RenderFault where
  /-- There is no time range to replace the placeholders with. -/
  | expand (f : ConfigFault)
  /-- No query of the panel has a device. -/
  | noTargets (p : Panel)
  | composition (f : Fault)
  | unnamedCte (f : UnnamedCte)
  deriving DecidableEq, Repr

/-- What is reported of a panel that is not printed. -/
def RenderFault.message : RenderFault → String
  | expand f => "Cannot expand placeholders: " ++ f.message
  | noTargets p => "Panel '" ++ p.name ++ "' has no queries for the configured devices"
  | composition f => f.message
  | unnamedCte f => f.message

/-- A target with its written statement. -/
structure RawTarget where
  refId : String
  sql : String
  format : Format
  deriving DecidableEq, Repr

/-- The target with its statement written, and expanded for the range if there is one. -/
def Target.raw (range : Option TimeRange) (t : Target) : Except UnnamedCte RawTarget := do
  return ⟨t.refId, ← t.sql range, t.format⟩

namespace RawTarget

/-- The statement alone, on a line of its own. -/
def line (t : RawTarget) : String :=
  t.sql ++ "\n"

/-- The statement below a comment that names it. -/
def commented (t : RawTarget) : String :=
  "\n-- refId: " ++ t.refId ++ " (" ++ t.format.title ++ ")\n" ++ t.line

/-- The keys and values of a target in the data that a dashboard imports. -/
def entries (t : RawTarget) : List (String × String) :=
  [("refId", t.refId), ("rawSql", t.sql), ("format", t.format.key)]

end RawTarget

/-- The text of a panel in an output form. -/
def OutputForm.text (p : Panel) (targets : List RawTarget) : OutputForm → String
  | sql => String.join (targets.map RawTarget.line)
  | verbose =>
    "-- Kilowatt Panel SQL\n-- Panel: " ++ p.name ++ "\n" ++
      String.join (targets.map RawTarget.commented)
  | json => Text.Json.array (targets.map RawTarget.entries) ++ "\n"

/-- The range that placeholders are replaced with, if that is asked for. -/
def expansion (s : Settings) (env : Environment) (expand : Bool) :
    Except RenderFault (Option TimeRange) :=
  if expand then do return some (← (s.range env).mapError .expand) else .ok none

/-- The text of a panel.  The range is resolved first, so that its fault is reported before any of
    the queries. -/
def renderPanel (p : Panel) (s : Settings) (env : Environment) (form : OutputForm) (expand : Bool) :
    Except RenderFault String := do
  let range ← expansion s env expand
  let targets ← (p.targets s.devices).mapError .composition
  if targets.isEmpty then .error (.noTargets p)
  else
    let raw ← (targets.mapM (Target.raw range)).mapError .unnamedCte
    return form.text p raw

/-! ## Other output -/

/-- How a run ends, and what it prints. -/
structure Outcome where
  exit : Nat
  stdout : String := ""
  stderr : String := ""
  deriving DecidableEq, Repr

/-- A run that fails with a message. -/
def Outcome.failure (message : String) : Outcome :=
  { exit := 1, stderr := message ++ "\n" }

/-- Arguments that stand for no command. -/
def Outcome.usage : Outcome :=
  { exit := 2, stderr := "usage: kilowatt (render <panel> | panels | validate) [options]\n" }

/-- What is printed for the version. -/
def versionText : String := "kilowatt 0.1.0\n"

/-- `s` filled up with blanks to `width`. -/
def padRight (width : Nat) (s : String) : String :=
  s ++ String.ofList (List.replicate (width - s.length) ' ')

/-- A panel in the list of panels, the descriptions standing below each other. -/
def panelLine (p : Panel) : String :=
  "  - " ++ padRight 10 p.name ++ " " ++ p.description ++ "\n"

/-- The list of all panels. -/
def panelList : String :=
  "Panels:\n" ++ String.join (Panel.all.map panelLine)

/-- Device ids between brackets. -/
def idList (ids : List Nat) : String :=
  "[" ++ ", ".intercalate (ids.map toString) ++ "]"

/-- What is said of an accepted configuration: the devices of every family that has some. -/
def report (s : Settings) : Outcome where
  exit := 0
  stdout :=
    String.join ((s.devices.lists.filter (!·.2.isEmpty)).map fun (key, ids) =>
      "  " ++ key ++ ": " ++ idList ids ++ "\n") ++ "OK: configuration is valid\n"
  stderr :=
    if s.devices.isEmpty then "Warning: no devices configured, every panel is empty\n" else ""

/-! ## Outside -/

/-- What stands at a path. -/
inductive File where
  | missing
  | directory
  | content (bytes : ByteArray)
  | unreadable (reason : String)

/-- What a command needs from outside. -/
structure Host (m : Type → Type) where
  readVariable : String → m (Option String)
  file : String → m File

/-- The settings that stand at a path, where there must be a text. -/
def File.settings (path : String) : File → Except ConfigFault Settings
  | missing => .error (.notFound path)
  | directory => .error (.unreadable "Is a directory (os error 21)")
  | unreadable reason => .error (.unreadable reason)
  | content bytes =>
    match String.fromUTF8? bytes with
    | some text => Settings.ofText text
    | none => .error (.unreadable "stream did not contain valid UTF-8")

/-- The user's configuration file, given the variables `XDG_CONFIG_HOME` and `HOME`; the former
    counts if it is an absolute path. -/
def userConfig (xdg home : Option String) : Option String :=
  match xdg.filter (·.startsWith "/"), home.filter (!·.isEmpty) with
  | some dir, _ => some (dir ++ "/kilowatt/config.toml")
  | none, some dir => some (dir ++ "/.config/kilowatt/config.toml")
  | none, none => none

namespace Host

variable {m : Type → Type} [Monad m]

/-- The settings in the first of the files that exists; without one, nothing is configured. -/
def firstSettings (h : Host m) : List String → m (Except ConfigFault Settings)
  | [] => return .ok {}
  | path :: more => do
    match ← h.file path with
    | .missing => h.firstSettings more
    | f => return f.settings path

/-- The settings that a command works with. -/
def settings (h : Host m) (config : Option String) : m (Except ConfigFault Settings) := do
  match config.or (← h.readVariable "KILOWATT_CONFIG") with
  | some path => return (← h.file path).settings path
  | none =>
    let user := userConfig (← h.readVariable "XDG_CONFIG_HOME") (← h.readVariable "HOME")
    h.firstSettings ("kilowatt.toml" :: user.toList)

/-- The environment, as far as the names are concerned. -/
def environment (h : Host m) (names : List String) : m Environment := do
  let found ← names.mapM fun name => do return (← h.readVariable name).map (name, ·)
  return ⟨found.filterMap id⟩

/-- Runs a command on settings that are accepted, or reports why they are not. -/
def withSettings (h : Host m) (config : Option String) (heading : String)
    (f : Settings → Environment → Outcome) : m Outcome := do
  match ← h.settings config with
  | .error e => return .failure (heading ++ e.message)
  | .ok s =>
    let env ← h.environment s.names
    match s.check env with
    | .error e => return .failure (heading ++ e.message)
    | .ok () => return f s env

/-- Runs a command. -/
def execute (h : Host m) : Command → m Outcome
  | .version => return { exit := 0, stdout := versionText }
  | .panels => return { exit := 0, stdout := panelList }
  | .validate config => h.withSettings config "Validation error: " fun s _ => report s
  | .render p config form expand =>
    h.withSettings config "Configuration error: " fun s env =>
      match renderPanel p s env form expand with
      | .ok text => { exit := 0, stdout := text }
      | .error e => .failure e.message

/-- Runs the command that arguments stand for. -/
def run (h : Host m) (args : List String) : m Outcome :=
  match Command.ofArguments args with
  | some c => h.execute c
  | none => return .usage

end Host

end EnergyQuery
