/-
  FrontLint.Scan.Basic — the findings of one file. A component is read block by block, scripts first
  and styles next, each with its place in the file; then its markup line by line, leaving out the
  lines that lie wholly in a block; then its markup as a whole. Other files are a single pass.
-/

import FrontLint.Block.Component
import FrontLint.Classifier
import FrontLint.Pass.Line
import FrontLint.Pass.Span

namespace FrontLint

structure SourceFile where
  path : String
  text : Text
  kind : FileKind
  deriving DecidableEq, Repr

structure Scanner where
  table : RuleTable
  classifier : Classifier

namespace Scanner

/-- The lines strictly between the first and the last line of a block, if there are any. -/
def bodyLines? (b : Block) : Option (Nat × Nat) :=
  if b.startLine + 1 < b.endLine - 1 then some (b.startLine + 1, b.endLine - 1) else none

def wholeCandidates (s : Scanner) (file : SourceFile) (mode : Mode) (c : FileClass) :
    List Candidate :=
  (LinePass.whole file.path mode c).candidates s.table file.text.lines

def blockCandidates (s : Scanner) (file : SourceFile) (mode : Mode) (c : FileClass) (b : Block) :
    List Candidate :=
  LinePass.candidates { LinePass.whole file.path mode c with offset := b.startLine } s.table
    b.text.lines

def markupCandidates (s : Scanner) (file : SourceFile) (c : FileClass) (parts : Component) :
    List Candidate :=
  let skips := (parts.scripts ++ parts.styles).filterMap bodyLines?
  LinePass.candidates { LinePass.whole file.path .markup c with skips } s.table parts.residue.lines

def componentCandidates (s : Scanner) (file : SourceFile) (c : FileClass) : List Candidate :=
  let parts := Component.split file.text
  parts.scripts.flatMap (s.blockCandidates file .script c) ++
    parts.styles.flatMap (s.blockCandidates file .style c) ++
    s.markupCandidates file c parts ++
    SpanPass.candidates ⟨file.path, c⟩ s.table parts.residue

/-- The candidates of a file of class `c`. -/
def candidatesIn (s : Scanner) (file : SourceFile) (c : FileClass) : List Candidate :=
  match file.kind with
  | .component => s.componentCandidates file c
  | .script => s.wholeCandidates file .script c
  | .style => s.wholeCandidates file .style c

/-- The candidates of a file that is classified by the path `classPath`. -/
def candidatesAs (s : Scanner) (file : SourceFile) (classPath : String) : List Candidate :=
  s.candidatesIn file (s.classifier.classify classPath.toList file.kind)

/-- The candidates of a file, classified by its own path. -/
def candidates (s : Scanner) (file : SourceFile) : List Candidate := s.candidatesAs file file.path

/-- The findings of a file, in the order in which the passes give them. -/
def scan (s : Scanner) (file : SourceFile) : List Finding := Candidate.findings (s.candidates file)

end Scanner

end FrontLint
