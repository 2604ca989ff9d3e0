/-
  FrontLint.Command.Run — running a command line.
-/

import FrontLint.Command.Check
import FrontLint.Command.Rules

namespace FrontLint

/-- The name under which the program speaks of itself. -/
def programName : String := "glint"

def usage : Text :=
  ("Usage: " ++ programName ++ " [--log-level LEVEL] [--log-json] <COMMAND>\n\n" ++
    "Commands:\n" ++
    "  check    Scan component, script and style files for findings\n" ++
    "  rules    List the rules in the active catalog\n" ++
    "  explain  Show detailed explanation for a specific rule\n").toList

def Command.run (env : Environment) : Command → Outcome
  | .check o => o.run env
  | .rules category catalog => runRules env category catalog
  | .explain id catalog => runExplain env id catalog

/-- The outcome of a request. A command line that is not understood exits with 2. -/
def Request.run (env : Environment) : Request → Outcome
  | .command c => c.run env
  | .version => .printed (programName ++ " " ++ versionNumber ++ "\n").toList []
  | .help => .printed usage []
  | .refuse => ⟨2, [], usage, none⟩

def runArguments (env : Environment) (args : List String) : Outcome :=
  (Arguments.parse args).run env

end FrontLint
