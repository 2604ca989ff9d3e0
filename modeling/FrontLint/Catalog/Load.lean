/-
  FrontLint.Catalog.Load — the catalog in a file.
-/

import FrontLint.Catalog.Builtin
import FrontLint.Catalog.Source
import FrontLint.FileSystem.Basic

namespace FrontLint.Catalog

inductive LoadError where
  | read (path : Path) (e : FileError)
  | source (e : SourceError)

namespace LoadError

def message : LoadError → String
  | read path e => "Failed to read rule catalog '" ++ path.toString ++ "': " ++ e.message
  | source e => e.message

/-- What lies behind an error, where that has a wording of its own. -/
def cause? : LoadError → Option String
  | read _ e => some e.message
  | source (.entry (.invalidPattern _ fault)) => some fault.message
  | source _ => none

end LoadError

/-- The table of the catalog at a path. -/
def load (validators : Validator.Registry) (fs : FileSystem) (path : Path) :
    Except LoadError RuleTable :=
  match fs.readText path with
  | .error e => .error (.read path e)
  | .ok source =>
    match ofSource validators path.toString source with
    | .ok table => .ok table
    | .error e => .error (.source e)

end FrontLint.Catalog
