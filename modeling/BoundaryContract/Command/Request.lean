import BoundaryContract.Command.Call
import BoundaryContract.Command.Config
import BoundaryContract.Command.Run
import BoundaryContract.Usage

/-!
# Requests

What can be asked on the command line of `bridgetest`: a task, and options that any command takes.
An option may be given before or after the name of the command; given in both places, the inner one
counts.
-/

namespace BoundaryContract.Command

/-- A shell that completions are written for. -/
inductive Shell
  | bash
  | zsh
  | fish
  | powerShell
  | elvish
deriving DecidableEq

namespace Shell

/-- All shells, in the order in which they are offered. -/
def all : List Shell := [bash, zsh, fish, powerShell, elvish]

/-- The name by which a shell is asked for. -/
def name : Shell → String
  | .bash => "bash"
  | .zsh => "zsh"
  | .fish => "fish"
  | .powerShell => "power-shell"
  | .elvish => "elvish"

/-- The name by which a shell is known. -/
def title : Shell → String
  | .powerShell => "powershell"
  | shell => shell.name

end Shell

/-- The options that any command takes. -/
structure Options where
  /-- How often more detail was asked for. -/
  verbosity : Nat := 0
  quiet : Bool := false
  /-- The configuration file to use. -/
  config : Option String := none
  format : Option Format := none
  noColor : Bool := false
deriving DecidableEq

/-- How much detail is shown: none more than usual if quiet is asked for. -/
def Options.detail (o : Options) : Nat := if o.quiet then 0 else o.verbosity

/-- What is to be done. -/
inductive Task
  | run (args : Run)
  | surface (symbols : Bool)
  | call (call : Call)
  | showConfig (format : ConfigFormat)
  | initConfig (args : ConfigInit)
  | configPath
  | completions (shell : Shell)
deriving DecidableEq

/-- What is asked on a command line. -/
structure Request where
  options : Options
  task : Task
deriving DecidableEq

namespace Request

/-! ### The command line -/

/-- A value out of a list of names. -/
def oneOf (names : List String) : Usage.Effect := .value fun text => names.contains text

/-- The flags of every command. -/
def commonFlags : List Usage.Flag :=
  [{ name := "verbose", short := some 'v', effect := .count },
   { name := "quiet", short := some 'q', effect := .mark },
   { name := "config", short := some 'c', effect := .value fun path => !path.isEmpty,
     environment := some "BRIDGETEST_CONFIG" },
   { name := "output", short := some 'o', effect := oneOf (Format.all.map Format.name) },
   { name := "no-color", effect := .mark },
   { name := "help", short := some 'h', effect := .help },
   { name := "version", short := some 'V', effect := .version }]

/-- A command that takes the common flags and its own. -/
def command (name : String) (flags : List Usage.Flag) (operands : List Usage.Operand)
    (commands : List Usage.Command) : Usage.Command :=
  .mk name (commonFlags ++ flags) operands [("quiet", "verbose")] commands

/-- The flag that chooses a backend. -/
def backendFlag : Usage.Flag :=
  { name := "backend", short := some 'b', effect := oneOf (Backend.all.map Backend.name) }

/-- The command that runs the suite. -/
def runCommand : Usage.Command :=
  command "run"
    [backendFlag,
     { name := "tier", short := some 't', effect := oneOf (Tier.all.map Tier.name) },
     { name := "failures-only", effect := .mark }]
    [] []

/-- The command that lists the surface. -/
def surfaceCommand : Usage.Command :=
  command "surface" [{ name := "symbols", effect := .mark }] [] []

/-- The command that calls a function. -/
def callCommand : Usage.Command :=
  command "call" [backendFlag]
    [{ name := "function", accepts := fun _ => true, required := true },
     { name := "args", accepts := fun _ => true, required := false, many := true,
       negative := true }]
    []

/-- The commands about configuration. -/
def configCommand : Usage.Command :=
  command "config" [] []
    [command "show"
      [{ name := "format", short := some 'f',
         effect := oneOf (ConfigFormat.all.map ConfigFormat.name) }] [] [],
     command "init" [{ name := "force", effect := .mark }]
      [{ name := "path", accepts := fun path => !path.isEmpty, required := false }] [],
     command "path" [] [] []]

/-- The command that writes shell completions. -/
def completionsCommand : Usage.Command :=
  command "completions" []
    [{ name := "shell", accepts := fun text => (Shell.all.map Shell.name).contains text,
       required := true }]
    []

/-- The whole command line. -/
def usage : Usage.Command :=
  command "bridgetest" [] []
    [runCommand, surfaceCommand, callCommand, configCommand, completionsCommand]

/-! ### Reading -/

/-- The alternative of a name. -/
def named? {α : Type} (all : List α) (name : α → String) (text : Option String) : Option α :=
  text.bind fun text => all.find? fun a => name a = text

/-- The most that is counted of requests for more detail. -/
def maxVerbosity : Nat := 255

/-- The options given at several commands. -/
def optionsOf (levels : List Usage.Level) : Options :=
  let values (name : String) : List String :=
    match Usage.lookup? name levels with
    | some g => g.values
    | none => []
  { verbosity := min (values "verbose").length maxVerbosity
    quiet := (Usage.lookup? "quiet" levels).isSome
    config := (values "config").head?
    format := named? Format.all Format.name (values "output").head?
    noColor := (Usage.lookup? "no-color" levels).isSome }

/-- The task of a command inside the outermost one. -/
def taskOf? : List Usage.Level → Option Task
  | [level] =>
    let backend := named? Backend.all Backend.name (level.value? "backend")
    match level.command with
    | "run" =>
      some (.run
        { backend
          tier := named? Tier.all Tier.name (level.value? "tier")
          failuresOnly := level.has "failures-only" })
    | "surface" => some (.surface (level.has "symbols"))
    | "call" =>
      some (.call
        { function := (level.value? "function").getD "", args := level.values "args", backend })
    | "completions" =>
      (named? Shell.all Shell.name (level.value? "shell")).map Task.completions
    | _ => none
  | [_, level] =>
    match level.command with
    | "show" =>
      some (.showConfig
        ((named? ConfigFormat.all ConfigFormat.name (level.value? "format")).getD .yaml))
    | "init" =>
      some (.initConfig { path := level.value? "path", force := level.has "force" })
    | "path" => some .configPath
    | _ => none
  | _ => none

/-- The request of a command line, with the variables of the environment. -/
def read (vars : List (String × String)) (args : List String) :
    Except Usage.Refusal Request := do
  let levels ← Usage.read vars usage args
  match taskOf? levels.tail with
  | some task => return ⟨optionsOf levels, task⟩
  | none => .error .missingCommand

end Request

end BoundaryContract.Command
