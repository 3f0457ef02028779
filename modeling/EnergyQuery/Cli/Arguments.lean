/-
  The command line:

    render <panel> [-c <file>] [-o <form>] [-e]
    panels
    validate [-c <file>]

  Options may stand before or after the panel.  A value follows its option as
  the next argument, after an equals sign, or directly after the letter; as an
  argument of its own it must not start like an option.  Letters without values
  can be joined.  Each option may be given once.  After `--` every argument
  counts as it stands.

  * `Command.ofArguments` is the command that arguments stand for, if any.
-/
import EnergyQuery.Panel.Kind

namespace EnergyQuery

/-- The form in which a panel is printed. -/
inductive OutputForm where
  | sql
  | verbose
  | json
  deriving DecidableEq, Repr

/-- What is asked for on the command line. -/
inductive Command where
  | version
  | render (panel : Panel) (config : Option String) (form : OutputForm) (expand : Bool)
  | panels
  | validate (config : Option String)
  deriving DecidableEq, Repr

/-- The output form with the given name. -/
def OutputForm.ofName? (s : String) : Option OutputForm :=
  match s with
  | "sql" => some sql
  | "verbose" => some verbose
  | "json" => some json
  | _ => none

namespace Arguments

/-- The options of the commands. -/
inductive Flag where
  | config
  | output
  | expand
  deriving DecidableEq, Repr

namespace Flag

/-- The option as a word, behind two hyphens. -/
def word : Flag → String
  | config => "config"
  | output => "output"
  | expand => "expand"

/-- The option as a letter, behind one hyphen. -/
def letter : Flag → Char
  | config => 'c'
  | output => 'o'
  | expand => 'e'

/-- The option takes a value; without one, it only switches something on. -/
def hasValue : Flag → Bool
  | expand => false
  | _ => true

end Flag

/-- Arguments taken apart: the options with their values, and all other arguments. -/
structure Parts where
  options : List (Flag × String) := []
  operands : List String := []
  deriving DecidableEq, Repr

namespace Parts

/-- The value that an option is given; an option without a value has the empty text. -/
def value? (p : Parts) (f : Flag) : Option String :=
  p.options.lookup f

/-- One more option, which must not be given already. -/
def give (p : Parts) (f : Flag) (value : String) : Option Parts :=
  if (p.value? f).isSome then none else some { p with options := p.options ++ [(f, value)] }

/-- One more argument that is no option. -/
def operand (p : Parts) (s : String) : Parts :=
  { p with operands := p.operands ++ [s] }

end Parts

/-- What an argument turns out to be: the parts with it, and the option whose value comes next. -/
abbrev Step := Parts × Option Flag

/-- The argument starts like an option; a single hyphen does not. -/
def startsOption (s : List Char) : Bool :=
  match s with
  | '-' :: _ :: _ => true
  | _ => false

/-- An option as a word, with a value after an equals sign if there is one. -/
def wordOption (accepted : List Flag) (p : Parts) (s : List Char) : Option Step := do
  let name := String.ofList (s.takeWhile (· ≠ '='))
  let f ← accepted.find? (·.word == name)
  match s.dropWhile (· ≠ '=') with
  | [] => if f.hasValue then return (p, some f) else return (← p.give f "", none)
  | _ :: value => if f.hasValue then return (← p.give f (String.ofList value), none) else none

/-- Options as letters; the text after a letter with a value is the value. -/
def letterOptions (accepted : List Flag) (p : Parts) : List Char → Option Step
  | [] => some (p, none)
  | c :: s => do
    let f ← accepted.find? (·.letter == c)
    if f.hasValue then
      match s with
      | [] => return (p, some f)
      | '=' :: value => return (← p.give f (String.ofList value), none)
      | value => return (← p.give f (String.ofList value), none)
    else letterOptions accepted (← p.give f "") s

/-- One argument that is not the value of an option before it. -/
def step (accepted : List Flag) (p : Parts) (arg : String) : Option Step :=
  match arg.toList with
  | '-' :: '-' :: s => wordOption accepted p s
  | '-' :: c :: s => letterOptions accepted p (c :: s)
  | _ => some (p.operand arg, none)

/-- Takes arguments apart, `pending` being the option whose value comes next. -/
def split (accepted : List Flag) (pending : Option Flag) (p : Parts) : List String → Option Parts
  | [] => if pending.isSome then none else some p
  | arg :: more =>
    match pending with
    | some f =>
      if startsOption arg.toList then none
      else do split accepted none (← p.give f arg) more
    | none =>
      -- After a double hyphen every argument is an operand.
      if arg = "--" then some (more.foldl Parts.operand p)
      else do
        let (p, pending) ← step accepted p arg
        split accepted pending p more

/-- The path of a configuration, which must not be empty. -/
def configOf? (p : Parts) : Option (Option String) :=
  match p.value? .config with
  | some path => if path.isEmpty then none else some (some path)
  | none => some none

/-- The form of the output, statements alone unless one is given. -/
def formOf? (p : Parts) : Option OutputForm :=
  match p.value? .output with
  | some name => OutputForm.ofName? name
  | none => some .sql

end Arguments

open Arguments

namespace Command

/-- The command that prints a panel, which must be the only operand. -/
def renderOf? (args : List String) : Option Command := do
  let p ← split [.config, .output, .expand] none {} args
  let config ← configOf? p
  let form ← formOf? p
  match p.operands with
  | [name] =>
    let panel ← (Panel.ofName name).toOption
    return .render panel config form (p.value? .expand).isSome
  | _ => none

/-- The command that lists the panels, which takes no arguments. -/
def panelsOf? (args : List String) : Option Command := do
  let p ← split [] none {} args
  if p.operands.isEmpty then return .panels else none

/-- The command that checks the configuration, which takes no operand. -/
def validateOf? (args : List String) : Option Command := do
  let p ← split [.config] none {} args
  let config ← configOf? p
  if p.operands.isEmpty then return .validate config else none

/-- The first argument asks for the version: the word, or letters that start with its letter. -/
def asksVersion (arg : String) : Bool :=
  arg == "--version" || arg.toList.take 2 == ['-', 'V']

/-- The command that arguments stand for. -/
def ofArguments : List String → Option Command
  | [] => none
  | "render" :: args => renderOf? args
  | "panels" :: args => panelsOf? args
  | "validate" :: args => validateOf? args
  | arg :: _ => if asksVersion arg then some .version else none

end Command

end EnergyQuery
