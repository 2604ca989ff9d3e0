/-
  FrontLint.Pass.Line — the pass that reads a run of lines one by one. Each line is cleaned of
  comments, with what the line before left open, and every active line rule is matched against it.
  Directives are read from the lines as they stand.

  Skipped lines are left alone, and cleaning starts afresh behind them.
-/

import FrontLint.Directive
import FrontLint.Finding
import FrontLint.Position
import FrontLint.Rule.Table
import FrontLint.Strip.Run

namespace FrontLint

/-- Where a run of lines stands and how it is read. -/
structure LinePass where
  file : String
  mode : Mode
  fileClass : FileClass
  /-- How many lines of the file come before the run. -/
  offset : Nat
  /-- Lines of the run that are skipped, each part from its first line up to its second. -/
  skips : List (Nat × Nat)

/-- A line of a run with its number from 0, as it stands and without comments. -/
structure CleanLine where
  index : Nat
  raw : Text
  cleaned : Text
  deriving DecidableEq, Repr

namespace LinePass

/-- A pass over a whole file. -/
def whole (file : String) (mode : Mode) (fileClass : FileClass) : LinePass :=
  { file, mode, fileClass, offset := 0, skips := [] }

def skipsLine (p : LinePass) (index : Nat) : Bool :=
  p.skips.any fun (first, stop) => first ≤ index && index < stop

def cleanFrom (p : LinePass) (index : Nat) (s : Stripper) : List Text → List CleanLine
  | [] => []
  | raw :: rest =>
    if p.skipsLine index then cleanFrom p (index + 1) s.reset rest
    else
      let (cleaned, s) := s.step raw
      ⟨index, raw, cleaned⟩ :: cleanFrom p (index + 1) s rest

/-- The lines that are not skipped, cleaned. -/
def cleanLines (p : LinePass) (lines : List Text) : List CleanLine :=
  p.cleanFrom 0 (.start p.mode) lines

/-- The line rules that run in a pass. -/
def activeRules (p : LinePass) (t : RuleTable) : List Rule :=
  t.lineRules.filter (t.isActive p.mode p.fileClass)

def candidate (p : LinePass) (l : CleanLine) (r : Rule) (m : Match) : Candidate :=
  { rule := r
    matched := m.text
    shown := m.text
    context := ⟨p.file, p.offset + l.index + 1, l.cleaned⟩
    column := l.raw.columnAt m.start }

/-- The matches of a rule on a line, unless a directive silences it there. -/
def ruleCandidates (p : LinePass) (silenced : Suppressions) (l : CleanLine) (r : Rule) :
    List Candidate :=
  if silenced.silences l.index r.id then []
  else (r.pattern.findMatches l.cleaned (!r.repeats)).map (p.candidate l r)

/-- The matches of all rules on a line, in the order of the rules. Blank lines have none. -/
def lineCandidates (p : LinePass) (rules : List Rule) (silenced : Suppressions) (l : CleanLine) :
    List Candidate :=
  if l.cleaned.allBlank then [] else rules.flatMap (p.ruleCandidates silenced l)

def candidates (p : LinePass) (t : RuleTable) (lines : List Text) : List Candidate :=
  (p.cleanLines lines).flatMap (p.lineCandidates (p.activeRules t) (.ofLines lines))

/-- The findings of a pass, by line, then by rule, then by where the match starts. -/
def run (p : LinePass) (t : RuleTable) (lines : List Text) : List Finding :=
  Candidate.findings (p.candidates t lines)

end LinePass

end FrontLint
