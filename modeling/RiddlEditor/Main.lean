import RiddlEditor.Listing

/-!
# Token listing

The command line: print the tokens of a file, its faults and, unless they are not
wanted, its diagnostics.

## Main definitions

* `Arguments`, `parseArguments?`: What the command is asked to do.
* `main`: The command.
-/

namespace RiddlEditor

/-- What the command is asked to do. -/
structure Arguments where
  path : String
  withDiagnostics : Bool
  deriving DecidableEq, Repr

/-- The arguments of a command line with one path and, in any place, the wish for no
    diagnostics. -/
def parseArguments? (arguments : List String) : Option Arguments :=
  let quiet := "--no-diagnostics"
  match arguments.filter (· ≠ quiet) with
  | [path] => some ⟨path, !arguments.contains quiet⟩
  | _ => none

/-- How the command is called. -/
def usage : String :=
  "usage: riddl-tokens [--no-diagnostics] path"

end RiddlEditor

open RiddlEditor in
/-- Prints the listing of a file. -/
def main (arguments : List String) : IO UInt32 := do
  match parseArguments? arguments with
  | none =>
    IO.eprintln usage
    return 2
  | some { path, withDiagnostics } =>
    let text ← IO.FS.readFile path
    IO.print (String.ofList (fileListing text.toList path.toList withDiagnostics))
    return 0
