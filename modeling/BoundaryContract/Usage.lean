/-!
# Command lines

A command is described by its flags, its operands and the commands inside it. Reading a command line
finds what is given at each command on the way to the innermost one. A flag that needs a value keeps
it pending until something else is read, so a bad value is noticed after the arguments right behind
it; what is wrong inside a command is told before what is wrong around it.
-/

namespace BoundaryContract.Usage

/-! ### Descriptions -/

/-- What a flag does. -/
inductive Effect
  /-- It is given or not. -/
  | mark
  /-- It counts how often it is given. -/
  | count
  /-- It takes a value of some form. -/
  | value (accepts : String → Bool)
  /-- It asks for help. -/
  | help
  /-- It asks for the version. -/
  | version

/-- A flag: its long name and the letter that is short for it. -/
structure Flag where
  name : String
  short : Option Char := none
  effect : Effect
  /-- The variable of the environment that gives the value otherwise. -/
  environment : Option String := none

/-- An argument without a flag. -/
structure Operand where
  name : String
  accepts : String → Bool
  required : Bool
  /-- Whether it takes all further operands. -/
  many : Bool := false
  /-- Whether a negative number is taken for it and not for a flag. -/
  negative : Bool := false

/-- A command: what it takes, the flags that exclude each other, and the commands inside it. One
that has commands inside needs one of them and takes no operands. -/
inductive Command
  | mk (name : String) (flags : List Flag) (operands : List Operand)
      (conflicts : List (String × String)) (commands : List Command)

namespace Command

/-- The name of a command. -/
def name : Command → String
  | .mk name _ _ _ _ => name

/-- The flags of a command. -/
def flags : Command → List Flag
  | .mk _ flags _ _ _ => flags

/-- The operands of a command. -/
def operands : Command → List Operand
  | .mk _ _ operands _ _ => operands

/-- The flags of a command that exclude each other. -/
def conflicts : Command → List (String × String)
  | .mk _ _ _ conflicts _ => conflicts

/-- The commands inside a command. -/
def commands : Command → List Command
  | .mk _ _ _ _ commands => commands

/-- The command inside of a name. -/
def command? (c : Command) (name : String) : Option Command :=
  c.commands.find? fun inner => inner.name = name

/-- The flag of a long name. -/
def long? (c : Command) (name : String) : Option Flag :=
  c.flags.find? fun f => f.name = name

/-- The flag of a letter. -/
def short? (c : Command) (letter : Char) : Option Flag :=
  c.flags.find? fun f => f.short = some letter

/-- Whether a name is that of a command inside, or asks for help on those. -/
def hasCommand (c : Command) (name : String) : Bool :=
  (c.command? name).isSome || (name = "help" && !c.commands.isEmpty)

end Command

/-! ### What is given -/

/-- Where a value comes from; the command line counts more than the environment. -/
inductive Source
  | environment
  | line
deriving DecidableEq

/-- What is given for a flag or an operand. -/
structure Given where
  name : String
  values : List String
  source : Source
deriving DecidableEq

/-- What is given at one command. -/
structure Level where
  command : String
  given : List Given
deriving DecidableEq

/-- Why a command line is not carried out. -/
inductive Refusal
  | unknownArgument
  | invalidValue
  | conflict
  | unknownCommand
  | missingOperand
  | missingCommand
  | surplusValue
  /-- Help was asked for. -/
  | help
  /-- Nothing at all was asked for. -/
  | nothingAsked
  /-- The version was asked for, of the command that the names lead to. -/
  | version (names : List String)
deriving DecidableEq

/-- The exit code of a command line that is not carried out: being told what one asked for is no
failure. -/
def Refusal.exitCode : Refusal → Nat
  | .help | .version _ => 0
  | _ => 2

/-- What still waits to be recorded. -/
inductive Pending
  | flag (f : Flag) (values : List String)
  | operand (o : Operand) (values : List String)

/-- How far the arguments of one command are read. -/
structure State where
  given : List Given := []
  pending : Option Pending := none
  /-- Whether the next argument is the value of the pending flag. -/
  awaiting : Bool := false
  /-- Whether an operand is being read that takes all further ones. -/
  repeating : Bool := false
  /-- How many operands are complete. -/
  operand : Nat := 0
  /-- Whether all further arguments are operands. -/
  operandsOnly : Bool := false

namespace State

/-- What is given under a name. -/
def find? (s : State) (name : String) : Option Given := s.given.find? fun g => g.name = name

/-- Records something that can be given once. -/
def recordOnce (s : State) (name : String) (values : List String) : Except Refusal State :=
  if (s.find? name).isSome then .error .conflict
  else .ok { s with given := s.given ++ [⟨name, values, .line⟩] }

/-- Records something that adds to what is given already. -/
def recordMore (s : State) (name : String) (values : List String) : State :=
  match s.find? name with
  | none => { s with given := s.given ++ [⟨name, values, .line⟩] }
  | some _ =>
    { s with given := s.given.map fun g =>
        if g.name = name then { g with values := g.values ++ values } else g }

/-- Records values that have to be of some form. -/
def checked (accepts : String → Bool) (values : List String) (s : Except Refusal State) :
    Except Refusal State := do
  let s ← s
  if values.all accepts then return s else .error .invalidValue

/-- Records what is pending. -/
def settle (s : State) : Except Refusal State :=
  let free := { s with pending := none }
  match s.pending with
  | none => .ok s
  | some (.operand o values) =>
    checked o.accepts values
      (if o.many then .ok (free.recordMore o.name values) else free.recordOnce o.name values)
  | some (.flag f values) =>
    match f.effect with
    | .value accepts =>
      if values.isEmpty then .error .invalidValue
      else checked accepts values (free.recordOnce f.name values)
    | _ => .ok free

/-- Leaves the reading of values. -/
def rest (s : State) : State := { s with awaiting := false, repeating := false }

end State

/-! ### Reading arguments -/

/-- Whether the letters after a dash make it a negative number: digits, at most one point and one
exponent, neither of them first. -/
def isNumber : (first dotted raised : Bool) → List Char → Bool
  | _, _, _, [] => true
  | first, dotted, raised, c :: cs =>
    if c.isDigit then isNumber false dotted raised cs
    else if c = '.' then !first && !dotted && !raised && isNumber false true raised cs
    else c = 'e' && !first && !raised && !cs.isEmpty && isNumber false dotted true cs

/-- The name and the attached value of an argument that begins with two dashes. -/
def longForm? (arg : String) : Option (String × Option String) :=
  match arg.toList with
  | '-' :: '-' :: c :: cs =>
    let name := (c :: cs).takeWhile (· ≠ '=')
    match (c :: cs).dropWhile (· ≠ '=') with
    | _ :: value => some (String.ofList name, some (String.ofList value))
    | [] => some (String.ofList name, none)
  | _ => none

/-- The letters of an argument that begins with one dash. -/
def shortForm? (arg : String) : Option (List Char) :=
  match arg.toList with
  | '-' :: c :: cs => if c = '-' then none else some (c :: cs)
  | _ => none

variable (names : List String) (c : Command)

/-- The effect of a flag that takes no value. -/
def apply (f : Flag) (s : State) : Except Refusal State := do
  let s ← s.settle
  match f.effect with
  | .mark => return (← s.recordOnce f.name []).rest
  | .count => return (s.recordMore f.name [""]).rest
  | .value _ => return s
  | .help => .error .help
  | .version => .error (.version names)

/-- A flag whose value is attached to it. -/
def attach (f : Flag) (value : String) (s : State) : Except Refusal State := do
  let s ← s.settle
  return (← { s with pending := some (.flag f [value]) }.settle).rest

/-- A flag whose value is the next argument. -/
def await (f : Flag) (s : State) : Except Refusal State := do
  let s ← s.settle
  return { s.rest with pending := some (.flag f []), awaiting := true }

/-- A flag by its long name. -/
def readLong (name : String) (value? : Option String) (s : State) : Except Refusal State :=
  match c.long? name with
  | none => .error .unknownArgument
  | some f =>
    match f.effect, value? with
    | .value _, some value => attach f value s
    | .value _, none => await f s
    | _, some _ => .error .surplusValue
    | _, none => apply names f s

/-- Flags by their letters. What follows the letter of a flag with a value is the value, perhaps
after an equals sign. -/
def readLetters : List Char → State → Except Refusal State
  | [], s => .ok s
  | letter :: rest, s =>
    match c.short? letter with
    | none => .error .unknownArgument
    | some f =>
      match f.effect with
      | .value _ =>
        match rest with
        | [] => await f s
        | '=' :: value => attach f (String.ofList value) s
        | value => attach f (String.ofList value) s
      | _ => do readLetters rest (← apply names f s)

/-- An argument that no operand is left for. -/
def strayArgument (arg : String) (s : State) : Refusal :=
  if s.operandsOnly && c.hasCommand arg then .unknownArgument
  else if c.commands.isEmpty then .unknownArgument
  else .unknownCommand

/-- An operand. -/
def readOperand (arg : String) (s : State) : Except Refusal State :=
  match c.operands[s.operand]? with
  | none => .error (strayArgument c arg s)
  | some o =>
    if o.many then
      match s.pending with
      | some (.operand _ values) =>
        if s.repeating then .ok { s with pending := some (.operand o (values ++ [arg])) }
        else do
          return { (← s.settle).rest with pending := some (.operand o [arg]), repeating := true }
      | _ => do
        return { (← s.settle).rest with pending := some (.operand o [arg]), repeating := true }
    else do
      return { (← s.settle).rest with pending := some (.operand o [arg]), operand := s.operand + 1 }

/-- The value of a flag that awaits one, or else an operand. -/
def readPlain (arg : String) (s : State) : Except Refusal State :=
  match s.awaiting, s.pending with
  | true, some (.flag f values) =>
    .ok { s with pending := some (.flag f (values ++ [arg])), awaiting := false }
  | _, _ => readOperand c arg s

/-- Whether the letters after a dash are a negative number that the next operand takes. -/
def isNegativeOperand (letters : List Char) (s : State) : Bool :=
  (c.operands[s.operand]?).any Operand.negative && isNumber true false false letters

/-- One argument that is no command. -/
def readArgument (arg : String) (s : State) : Except Refusal State :=
  if s.operandsOnly then readOperand c arg s
  else if arg = "--" then .ok { s with operandsOnly := true }
  else
    match longForm? arg, shortForm? arg with
    | some (name, value?), _ => readLong names c name value? s
    | none, some letters =>
      if isNegativeOperand c letters s then readPlain c arg s else readLetters names c letters s
    | none, none => readPlain c arg s

/-! ### Whole command lines -/

/-- What the environment gives for flags that are not on the command line. -/
def fromVariables (vars : List (String × String)) :
    List Flag → State → Except Refusal State
  | [], s => .ok s
  | f :: rest, s =>
    match f.environment.bind fun name => vars.lookup name, f.effect with
    | some value, .value accepts =>
      if (s.find? f.name).isSome then fromVariables vars rest s
      else if accepts value then
        fromVariables vars rest
          { s with given := s.given ++ [⟨f.name, [value], .environment⟩] }
      else .error .invalidValue
    | _, _ => fromVariables vars rest s

/-- Why what is given at a command cannot be carried out. -/
def refusal? (hasInner : Bool) (s : State) : Option Refusal :=
  if !hasInner && !c.commands.isEmpty then
    some (if s.given.isEmpty then .nothingAsked else .missingCommand)
  else if c.conflicts.any fun (a, b) => (s.find? a).isSome && (s.find? b).isSome then
    some .conflict
  else if c.operands.any fun o => o.required && (s.find? o.name).isNone then
    some .missingOperand
  else none

/-- What is given at a command and at the commands inside it. -/
def finish (vars : List (String × String)) (s : State) (inner : List Level) :
    Except Refusal (List Level) := do
  let s ← fromVariables vars c.flags (← s.settle)
  match refusal? c (!inner.isEmpty) s with
  | some refusal => .error refusal
  | none => return ⟨c.name, s.given⟩ :: inner

/-- The answer to a request for help on the command that names lead to. -/
def helpOn : Command → List String → Refusal
  | _, [] => .help
  | c, name :: rest =>
    match c.command? name with
    | some inner => helpOn inner rest
    | none => if c.hasCommand name && rest.isEmpty then .help else .unknownCommand

/-- Reads the arguments of a command. -/
def readFrom (vars : List (String × String)) (names : List String) (c : Command) (s : State) :
    List String → Except Refusal (List Level)
  | [] => finish c vars s []
  | arg :: rest =>
    if !s.operandsOnly && !s.awaiting && !s.repeating && c.hasCommand arg then
      match c.command? arg with
      | some inner => do
        finish c vars s (← readFrom vars (names ++ [arg]) inner {} rest)
      | none => .error (helpOn c rest)
    else
      match readArgument names c arg s with
      | .ok s => readFrom vars names c s rest
      | .error refusal => .error refusal

/-- Reads a command line. -/
def read (vars : List (String × String)) (c : Command) (args : List String) :
    Except Refusal (List Level) :=
  readFrom vars [c.name] c {} args

/-! ### Looking up what is given -/

namespace Level

/-- What is given at a command under a name. -/
def find? (level : Level) (name : String) : Option Given :=
  level.given.find? fun g => g.name = name

/-- Whether anything is given at a command under a name. -/
def has (level : Level) (name : String) : Bool := (level.find? name).isSome

/-- The values given at a command under a name. -/
def values (level : Level) (name : String) : List String :=
  match level.find? name with
  | some g => g.values
  | none => []

/-- The value given at a command under a name. -/
def value? (level : Level) (name : String) : Option String := (level.values name).head?

end Level

/-- What is given under a name at one of several commands, the outermost first: what is given
further in counts, unless only the environment gives it there. -/
def lookup? (name : String) : List Level → Option Given
  | [] => none
  | level :: rest =>
    match level.find? name, lookup? name rest with
    | none, there => there
    | here, none => here
    | some here, some there =>
      if here.source = .line && there.source = .environment then some here else some there

end BoundaryContract.Usage
