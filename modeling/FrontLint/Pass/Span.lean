/-
  FrontLint.Pass.Span — the pass of the rules that read over lines. They see the whole markup of a
  file without its comments. A match that holds the rule's companion is safe, and a directive on any
  of its lines, or above the first, silences it.
-/

import FrontLint.Directive
import FrontLint.Finding
import FrontLint.Position
import FrontLint.Preview
import FrontLint.Rule.Table
import FrontLint.Strip.Run

namespace FrontLint

/-- The file whose markup is read. -/
structure SpanPass where
  file : String
  fileClass : FileClass

namespace SpanPass

/-- A text without its markup comments, line by line. -/
def cleaned (t : Text) : Text :=
  Text.unlines ((stripLines .markup t.lines .neutral).map (·.1))

/-- The rules over lines that run in a pass. -/
def activeRules (p : SpanPass) (t : RuleTable) : List Rule :=
  t.multilineRules.filter (t.isActive .markup p.fileClass)

/-- Whether the companion of a rule makes a match safe. -/
def isSafe (r : Rule) (matched : Text) : Bool := r.companion?.any (·.occursIn matched)

/-- The line, from 1, of the last character of a match, or of its place if it is empty. -/
def lastLine (ix : LineIndex) (m : Match) : Nat := ix.lineOf (max (m.stop - 1) m.start)

def candidate? (p : SpanPass) (residue : Text) (ix : LineIndex) (silenced : Suppressions) (r : Rule)
    (m : Match) : Option Candidate :=
  let place := ix.lineCol residue m.start
  if isSafe r m.text || silenced.silencesSpan (place.line - 1) (lastLine ix m - 1) r.id then none
  else some {
    rule := r
    matched := m.text
    shown := preview m.text
    context := ⟨p.file, place.line, m.text⟩
    column := place.column }

def candidates (p : SpanPass) (t : RuleTable) (residue : Text) : List Candidate :=
  let clean := cleaned residue
  let ix := LineIndex.ofText clean
  let silenced := Suppressions.ofLines residue.lines
  (p.activeRules t).flatMap fun r =>
    (r.pattern.findMatches clean false).filterMap (p.candidate? residue ix silenced r)

/-- The findings of a pass, by rule, then by where the match starts. -/
def run (p : SpanPass) (t : RuleTable) (residue : Text) : List Finding :=
  Candidate.findings (p.candidates t residue)

end SpanPass

end FrontLint
