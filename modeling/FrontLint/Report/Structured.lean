/-
  FrontLint.Report.Structured — a report for other programs: one JSON object, or one record a line.
-/

import FrontLint.JsonValue
import FrontLint.Report.Plain

namespace FrontLint

/-- The version that reports and the command line give. -/
def versionNumber : String := "0.1.0"

/-- What a report says about the run: where it took place and what was scanned. -/
structure RunInfo where
  workingDirectory : String
  analyzedPath : String
  deriving DecidableEq, Repr

namespace Report

abbrev Fields := List (String × JsonValue)

def infoFields (i : RunInfo) : Fields :=
  [("glint_version", .ofString versionNumber), ("working_directory", .ofString i.workingDirectory),
    ("analyzed_path", .ofString i.analyzedPath)]

def summaryFields (r : Report) : Fields :=
  [("files_scanned", .number r.filesScanned),
    ("files_skipped", .number r.filesSkipped),
    ("files_with_findings", .number r.filesWithFindings),
    ("total_findings", .number r.findings.length),
    ("by_severity", .object
      [("error", .number r.counts.error), ("warning", .number r.counts.warning),
        ("info", .number r.counts.info)]),
    ("by_category", .object
      [("security", .number (r.countCategory .security)), ("lint", .number (r.countCategory .lint)),
        ("a11y", .number (r.countCategory .a11y))])]

def findingFields (t : RuleTable) (f : Finding) : Fields :=
  [("rule_id", .ofString f.ruleId), ("category", .ofString f.category.name),
    ("severity", .ofString f.severity.name),
    ("location", .object
      [("file", .ofString f.file), ("line", .number f.line), ("column", .number f.column)]),
    ("matched", .string f.matched)] ++
  (t.suggestion? f.ruleId).toList.map fun s => ("suggestion", .ofString s)

def skippedFields (s : SkippedFile) : Fields :=
  [("path", .ofString s.path), ("reason", .ofString s.reason)]

/-- The report as one indented object, without a newline at the end. -/
def json (t : RuleTable) (i : RunInfo) (r : Report) : Text :=
  (JsonValue.object
    [("version", .ofString "1.0"),
      ("metadata", .object (infoFields i)),
      ("summary", .object r.summaryFields),
      ("findings", .list (r.findings.map fun f => .object (findingFields t f))),
      ("skipped", .list (r.skipped.map fun s => .object (skippedFields s)))]).pretty 0

/-- A record of a stated type, on a line of its own. -/
def recordLine (type : String) (fields : Fields) : Text :=
  (JsonValue.object (("type", .ofString type) :: fields)).compact ++ ['\n']

/-- The report as records: about the run, each finding, each skipped file, the summary. -/
def ndjson (t : RuleTable) (i : RunInfo) (r : Report) : Text :=
  recordLine "metadata" (infoFields i) ++
    r.findings.flatMap (fun f => recordLine "finding" (findingFields t f)) ++
    r.skipped.flatMap (fun s => recordLine "skipped" (skippedFields s)) ++
    recordLine "summary" r.summaryFields

end Report

end FrontLint
