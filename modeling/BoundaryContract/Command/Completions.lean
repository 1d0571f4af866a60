import BoundaryContract.Command.Request

/-!
# Shell completions

A script with which a shell completes the names of the commands.
-/

namespace BoundaryContract.Command

/-- The names of the commands, divided by spaces. -/
def commandNames : String :=
  " ".intercalate (Request.usage.commands.map Usage.Command.name)

/-- The script for a shell. -/
def Shell.completions (shell : Shell) : String :=
  let program := Request.usage.name
  Console.line <|
    match shell with
    | .bash => "complete -W '" ++ commandNames ++ "' " ++ program
    | .zsh => "#compdef " ++ program ++ "\n_arguments '1:command:(" ++ commandNames ++ ")'"
    | .fish =>
      "complete -c " ++ program ++ " -f -n __fish_use_subcommand -a '" ++ commandNames ++ "'"
    | .powerShell =>
      "Register-ArgumentCompleter -Native -CommandName " ++ program ++
        " -ScriptBlock \x7b -split '" ++ commandNames ++ "' \x7d"
    | .elvish =>
      "set edit:completion:arg-completer[" ++ program ++ "] = \x7b|@words| put " ++ commandNames ++
        " \x7d"

end BoundaryContract.Command
