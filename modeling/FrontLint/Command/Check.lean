/-
  FrontLint.Command.Check — scanning a path and reporting what was found.
-/

import FrontLint.Command.Arguments
import FrontLint.Command.Setup
import FrontLint.Report.Structured
import FrontLint.Scan.Batch
import FrontLint.Scan.Discovery

namespace FrontLint

namespace CheckOptions

/-- The gravest findings only, down to the asked severity; without one, all. -/
def leastSeverity (o : CheckOptions) : Except Failure Severity :=
  match o.severity with
  | none => .ok .info
  | some name =>
    match Severity.ofName? name with
    | some s => .ok s
    | none => .error (.ofMessage
        ("Invalid severity '" ++ name ++ "'. Valid values: error, warning, info"))

/-- Styles are for the terminal only. -/
def colorIn (o : CheckOptions) (env : Environment) : Bool :=
  env.color && !o.noColor && o.output.isNone

/-- The table and the report of a check under given settings. -/
def report (o : CheckOptions) (fs : FileSystem) (least : Severity) (s : Settings) :
    Except Failure (RuleTable × Report) := do
  let table := (← Catalog.tableFor fs s o.catalog).configured s.rules
  let ofGlobError (e : GlobError) : Failure := .ofMessage e.message
  let classifier ← (Classifier.ofGlobs s.classGlobs).mapError ofGlobError
  let files ← (Discovery.files fs o.path s.included s.excluded).mapError ofGlobError
  let scanner : Scanner := { table, classifier }
  return (table, scanner.scanFiles fs (Discovery.scanRoot fs o.path) least files)

/-- The report in the form asked for. -/
def render (o : CheckOptions) (env : Environment) (table : RuleTable) (r : Report) : Text :=
  let info : RunInfo := ⟨env.files.cwdPath.toString, o.path.toString⟩
  match o.format with
  | .text => r.plain table (o.colorIn env)
  | .json => r.json table info ++ ['\n']
  | .ndjson => r.ndjson table info

/-- Prints the report, or writes it to the asked file. -/
def deliver (o : CheckOptions) (env : Environment) (stderr : Text) (table : RuleTable)
    (r : Report) : Outcome :=
  let text := o.render env table r
  let exitCode := r.exitCode o.failOnWarnings
  match o.output with
  | none => ⟨exitCode, text, stderr, none⟩
  | some path =>
    match env.files.write path (String.ofList text).toUTF8 with
    | .ok _ => ⟨exitCode, [], stderr, some (path, text)⟩
    | .error e =>
      .failed stderr ⟨"Failed to create output file " ++ path.toString, [e.message]⟩

def run (o : CheckOptions) (env : Environment) : Outcome :=
  let prepared : Except Failure (Severity × Settings.Loaded) := do
    let least ← o.leastSeverity
    if !env.files.pathExists o.path then
      throw (.ofMessage ("Path does not exist: " ++ o.path.toString))
    return (least, ← Settings.loadFor env.files o.path)
  match prepared with
  | .error f => .failed [] f
  | .ok (least, loaded) =>
    let stderr := loaded.warningText (o.colorIn env)
    match o.report env.files least loaded.settings with
    | .error f => .failed stderr f
    | .ok (table, r) => o.deliver env stderr table r

end CheckOptions

end FrontLint
