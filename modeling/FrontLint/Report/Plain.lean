/-
  FrontLint.Report.Plain — a report for reading: a line for each finding, with the rule's suggestion
  below, a line for each skipped file, and a summary.
-/

import FrontLint.Paint
import FrontLint.Report.Basic
import FrontLint.Rule.Table
import FrontLint.Text.Blank

namespace FrontLint

/-- The suggestion of a rule, if the rule is in the table and has one. -/
def RuleTable.suggestion? (t : RuleTable) (id : String) : Option String :=
  ((t.get? id).map (·.suggestion)).filter (· ≠ "")

def Severity.paint : Severity → Paint
  | .error => .red
  | .warning => .yellow
  | .info => .blue

namespace Report

def findingLine (color : Bool) (f : Finding) : Text :=
  f.file.toList ++ ':' :: Text.decimal f.line ++ ':' :: Text.decimal f.column ++ [':', ' '] ++
    f.severity.paint.inBold.apply color f.severity.name.toList ++ [' ', '['] ++
    Paint.dimmed.apply color f.ruleId.toList ++ [']', ' '] ++ Text.trimEnd f.matched ++ ['\n']

def suggestionLine (color : Bool) (suggestion : String) : Text :=
  "  ".toList ++ Paint.green.apply color "suggestion:".toList ++ ' ' :: suggestion.toList ++ ['\n']

def findingLines (t : RuleTable) (color : Bool) (f : Finding) : Text :=
  findingLine color f ++
    match t.suggestion? f.ruleId with
    | some s => suggestionLine color s
    | none => []

def skippedLine (color : Bool) (s : SkippedFile) : Text :=
  Paint.yellow.apply color "skipped:".toList ++ ' ' :: s.path.toList ++ [':', ' '] ++
    s.reason.toList ++ ['\n']

def summaryLine (r : Report) : Text :=
  let files := " in ".toList ++ Text.decimal r.filesScanned ++ " file(s)".toList
  let found :=
    if r.counts.total = 0 then "No findings".toList
    else "Found ".toList ++ Text.decimal r.counts.error ++ " error(s), ".toList ++
      Text.decimal r.counts.warning ++ " warning(s) and ".toList ++ Text.decimal r.counts.info ++
      " info".toList
  let skipped :=
    if r.filesSkipped = 0 then []
    else " (".toList ++ Text.decimal r.filesSkipped ++ " skipped)".toList
  found ++ files ++ skipped ++ ['\n']

/-- The report as text, in colour or not. -/
def plain (t : RuleTable) (color : Bool) (r : Report) : Text :=
  r.findings.flatMap (findingLines t color) ++ r.skipped.flatMap (skippedLine color) ++
    (if r.findings.isEmpty && r.skipped.isEmpty then [] else ['\n']) ++ r.summaryLine

end Report

end FrontLint
