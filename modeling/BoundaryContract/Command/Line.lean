import BoundaryContract.Command.Completions
import BoundaryContract.Console.Surface
import BoundaryContract.Logging.Filter
import BoundaryContract.Logging

/-!
# Command lines

A command line is carried out from its arguments to the exit code. Configuration comes first: it
settles how output is written and what is logged, and a configuration that cannot be read ends
everything. A log filter that is not understood is told, and the task goes on without a log.
-/

namespace BoundaryContract.Command

/-- What a command line is carried out in. -/
structure Environment where
  vars : List (String × String)
  files : FileSystem
  /-- Whether the output goes to a terminal. -/
  terminal : Bool := false

/-- What a command line leaves behind. -/
structure Exit where
  code : Nat
  output : String
  errors : String
  files : FileSystem

namespace Environment

variable (env : Environment)

/-- The value of a variable. -/
def value? (name : String) : Option String := env.vars.lookup name

/-- The directory of the user's configuration: a configured one only if its path is absolute, or
else one inside the home directory. -/
def userDirectory : Option String :=
  match (env.value? "XDG_CONFIG_HOME").filter Path.isAbsolute with
  | some directory => some directory
  | none =>
    ((env.value? "HOME").filter fun home => !home.isEmpty).map fun home =>
      Path.join home ".config"

/-- Where configuration can be found. -/
def workspace : Workspace := ⟨env.files, env.userDirectory.map Config.userPath⟩

/-- The variables that settle what is logged. -/
def logging : LoggingVariables := ⟨env.value? "RUST_LOG", env.value? "BRIDGETEST_LOG_FORMAT"⟩

/-- Whether the variables let colors be used: some force or forbid them, and otherwise a terminal is
needed. -/
def allowsColor : Bool :=
  if (env.value? "CLICOLOR_FORCE").any fun value => value ≠ "0" then true
  else if (env.value? "NO_COLOR").isSome then false
  else (env.value? "CLICOLOR").all (fun value => value ≠ "0") && env.terminal

end Environment

/-- An error as it is told at the end, with an offer of help if that is of use. -/
def Error.farewell (color : Bool) (e : Error) : String :=
  Console.line (e.display color) ++
    if e.showsHelp then Console.line "\nFor more information, try '--help'" else ""

/-- What is told about a log level that is not understood. -/
def logNotice (level : String) : String :=
  match Filter.fault? level with
  | none => ""
  | some fault =>
    Console.line ("Failed to initialize logging: " ++
      (Error.config ("Invalid log level '" ++ level ++ "': " ++ fault.message)).message)

namespace Request

variable (request : Request)

/-- The console of a request. -/
def console (config : Config) (terminal : Bool) : Console :=
  { format := request.options.format.getD config.output.format
    color := !request.options.noColor && terminal && config.output.color
    quiet := request.options.quiet
    verbosity := request.options.detail }

/-- Carries out the task of a request; `elapsed` is the time that a verbose run tells. -/
def perform (config : Config) (console : Console) (w : Workspace) (elapsed : String) :
    Reply × FileSystem :=
  match request.task with
  | .run args => (args.run config console elapsed, w.files)
  | .surface symbols => (.done (console.surface symbols), w.files)
  | .call call => (call.run config console, w.files)
  | .showConfig format => (showConfig format config, w.files)
  | .initConfig args => initConfig args w.files console
  | .configPath => (configPath request.options.config w console, w.files)
  | .completions shell => (.done shell.completions, w.files)

/-- What is told about the log of a request. -/
def logErrors (env : Environment) (config : Config) : String :=
  logNotice (Logging.resolve request.options.detail request.options.quiet config.logging
    env.logging).1.level

/-- The path of the file that a request writes, if it writes one. -/
def target? : Option String :=
  match request.task with
  | .initConfig args => some (args.path.getD Config.projectYaml)
  | _ => none

/-- The paths that matter to a request. -/
def paths (env : Environment) : List String :=
  request.options.config.toList ++ Config.defaultPaths env.workspace ++ request.target?.toList

/-- Carries out a request. -/
def execute (env : Environment) (elapsed : String) : Exit :=
  match Config.load env.workspace request.options.config with
  | .error e =>
    ⟨e.exitCode, "", e.farewell (!request.options.noColor && env.allowsColor), env.files⟩
  | .ok config =>
    let console := request.console config env.terminal
    let (reply, files) := request.perform config console env.workspace elapsed
    let log := request.logErrors env config
    match reply.error with
    | none => ⟨0, reply.output, log, files⟩
    | some e => ⟨e.exitCode, reply.output, log ++ e.farewell console.color, files⟩

end Request

/-- Carries out a command line, unless it is refused. -/
def execute (env : Environment) (args : List String) (elapsed : String) :
    Except Usage.Refusal Exit :=
  match Request.read env.vars args with
  | .ok request => .ok (request.execute env elapsed)
  | .error (.version names) =>
    .ok ⟨0, Console.line ("-".intercalate names ++ " " ++ version), "", env.files⟩
  | .error refusal => .error refusal

end BoundaryContract.Command
