import BoundaryContract.Usage

/-!
# Notices about usage

What is told when a command line is not carried out: what is wrong with it, and an overview of what
could have been asked.
-/

namespace BoundaryContract.Usage

/-- What is wrong with a command line, if anything is. -/
def Refusal.message? : Refusal → Option String
  | .unknownArgument => some "unexpected argument"
  | .invalidValue => some "invalid value"
  | .conflict => some "an argument cannot be used with another one, or not more than once"
  | .unknownCommand => some "unrecognized command"
  | .missingOperand => some "a required argument is missing"
  | .missingCommand => some "a command is required but none was given"
  | .surplusValue => some "a value was given for a flag that takes none"
  | .help | .nothingAsked | .version _ => none

/-- The spelling of a flag in the overview. -/
def Flag.spelling (f : Flag) : String :=
  (match f.short with
    | some letter => "-" ++ String.singleton letter ++ ", "
    | none => "    ") ++ "--" ++ f.name

/-- The commands and flags of a command. -/
def overview (c : Command) : String :=
  let lines := ["Usage: " ++ c.name ++ " [OPTIONS] <COMMAND>", "", "Commands:"] ++
    (c.commands.map fun inner => "  " ++ inner.name) ++ ["", "Options:"] ++
    (c.flags.map fun f => "  " ++ f.spelling)
  "\n".intercalate lines ++ "\n"

/-- The notice about a refusal. -/
def Refusal.notice (c : Command) (refusal : Refusal) : String :=
  match refusal.message? with
  | some message => "error: " ++ message ++ "\n\n" ++ overview c
  | none => overview c

end BoundaryContract.Usage
