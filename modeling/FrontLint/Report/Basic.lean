/-
  FrontLint.Report.Basic — what a run over many files has to tell. Findings stand in one order
  whatever the order of the files: by category, file, line, column and rule.
-/

import FrontLint.Finding

namespace FrontLint

/-- A file that could not be scanned. -/
structure SkippedFile where
  path : String
  reason : String
  deriving DecidableEq, Repr

structure Report where
  findings : List Finding
  filesScanned : Nat
  skipped : List SkippedFile
  deriving DecidableEq, Repr

structure SeverityCounts where
  error : Nat
  warning : Nat
  info : Nat
  deriving DecidableEq, Repr

def SeverityCounts.total (c : SeverityCounts) : Nat := c.error + c.warning + c.info

namespace Finding

/-- The order of a report. -/
def order (a b : Finding) : Ordering :=
  (compare a.category.rank b.category.rank).then <|
  (compare a.file b.file).then <|
  (compare a.line b.line).then <|
  (compare a.column b.column).then <|
  compare a.ruleId b.ruleId

def le (a b : Finding) : Bool := (order a b).isLE

end Finding

namespace Report

/-- Findings that compare equal, and skipped files of one path, keep their order. -/
def ofFindings (findings : List Finding) (filesScanned : Nat) (skipped : List SkippedFile) :
    Report :=
  { findings := findings.mergeSort Finding.le
    filesScanned
    skipped := skipped.mergeSort fun a b => (compare a.path b.path).isLE }

def filesSkipped (r : Report) : Nat := r.skipped.length

/-- How many files have a finding. -/
def filesWithFindings (r : Report) : Nat := (r.findings.map (·.file)).eraseDups.length

def countSeverity (r : Report) (s : Severity) : Nat := r.findings.countP (·.severity = s)

def countCategory (r : Report) (c : Category) : Nat := r.findings.countP (·.category = c)

def counts (r : Report) : SeverityCounts :=
  ⟨r.countSeverity .error, r.countSeverity .warning, r.countSeverity .info⟩

/-- 1 if there is an error, or, on request, a warning; else 0. -/
def exitCode (r : Report) (failOnWarnings : Bool) : Nat :=
  if 0 < r.counts.error ∨ (failOnWarnings ∧ 0 < r.counts.warning) then 1 else 0

end Report

end FrontLint
