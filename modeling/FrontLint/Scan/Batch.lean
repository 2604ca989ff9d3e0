/-
  FrontLint.Scan.Batch — scanning the files of a file system. A file is classified by its path below
  the scanned root, and a file that cannot be read is skipped without stopping the others.
-/

import FrontLint.FileSystem.Basic
import FrontLint.Report.Basic
import FrontLint.Scan.Basic

namespace FrontLint

/-- Why a file has no findings to give. -/
inductive ScanError where
  | unsupported (path : Path)
  | read (path : Path) (e : FileError)
  deriving DecidableEq, Repr

def ScanError.message : ScanError → String
  | .unsupported path => "Unsupported file type: '" ++ path.toString ++ "'"
  | .read path e => "Failed to read '" ++ path.toString ++ "': " ++ e.message

namespace Scanner

def readSource (fs : FileSystem) (path : Path) : Except ScanError SourceFile :=
  match FileKind.ofPath? path with
  | none => .error (.unsupported path)
  | some kind =>
    match fs.readText path with
    | .ok text => .ok ⟨path.toString, text, kind⟩
    | .error e => .error (.read path e)

/-- The path below `root` that a file is classified by; the path itself if it is not below. -/
def classPath (path root : Path) : Path := (path.relativeTo? root).getD path

/-- The candidates of the file at a path. -/
def candidatesAt (s : Scanner) (fs : FileSystem) (root path : Path) :
    Except ScanError (List Candidate) := do
  let file ← readSource fs path
  return s.candidatesAs file (classPath path root).toString

/-- The findings of the file at a path. -/
def scanPath (s : Scanner) (fs : FileSystem) (root path : Path) :
    Except ScanError (List Finding) :=
  (s.candidatesAt fs root path).map Candidate.findings

/-- The findings of a file that are grave enough, none if it cannot be scanned. -/
def findingsAt (s : Scanner) (fs : FileSystem) (root : Path) (least : Severity) (path : Path) :
    List Finding :=
  match s.scanPath fs root path with
  | .ok found => found.filter (·.severity.atLeast least)
  | .error _ => []

/-- What is told of a file that cannot be scanned. -/
def skipAt? (s : Scanner) (fs : FileSystem) (root path : Path) : Option SkippedFile :=
  match s.scanPath fs root path with
  | .ok _ => none
  | .error e => some ⟨path.toString, e.message⟩

/-- The report of a list of files. -/
def scanFiles (s : Scanner) (fs : FileSystem) (root : Path) (least : Severity)
    (files : List Path) : Report :=
  let skipped := files.filterMap (s.skipAt? fs root)
  .ofFindings (files.flatMap (s.findingsAt fs root least)) (files.length - skipped.length) skipped

end Scanner

end FrontLint
