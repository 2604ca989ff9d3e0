/-
  FrontLint.Command.Setup — what every command needs first: the settings that hold for a path, with
  their warnings, and the table of rules. A catalog on the command line goes before one in the
  settings, and that before the built-in one.
-/

import FrontLint.Catalog.Load
import FrontLint.Command.Outcome
import FrontLint.Paint
import FrontLint.Settings.Search

namespace FrontLint

namespace Settings

/-- What lies behind a load error, where that has a wording of its own. -/
def LoadError.cause? : LoadError → Option String
  | .read _ e => some e.message
  | _ => none

/-- The settings for a path, or the failure to load them. -/
def loadFor (fs : FileSystem) (start : Path) : Except Failure Loaded :=
  match discover fs start with
  | .ok loaded => .ok loaded
  | .error e =>
    .error ⟨"Failed to load configuration for " ++ start.toString, e.message :: e.cause?.toList⟩

/-- The warnings as they are printed. -/
def Loaded.warningText (l : Loaded) (color : Bool) : Text :=
  l.warnings.flatMap fun w =>
    Paint.yellow.inBold.apply color "warning:".toList ++ ' ' :: w.toList ++ ['\n']

end Settings

namespace Catalog

/-- The table before the settings about rules are applied to it. -/
def tableFor (fs : FileSystem) (s : Settings) (named : Option Path) : Except Failure RuleTable :=
  match named.or s.catalog with
  | some path =>
    match load Validator.builtin fs path with
    | .ok table => .ok table
    | .error e =>
      .error ⟨"Failed to load rule catalog " ++ path.toString, e.message :: e.cause?.toList⟩
  | none =>
    match builtin with
    | .ok table => .ok table
    | .error e => .error (.ofMessage e.message)

end Catalog

end FrontLint
