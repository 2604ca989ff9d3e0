/-
  FrontLint.Scan.Discovery — which files a scan reads. Below a directory these are the files of a
  known kind that the filter admits, hidden entries and installed packages apart, in the order of
  their path components. A file that is named itself is taken whatever its name or the filter.
-/

import FrontLint.Classifier
import FrontLint.FileSystem.Basic

namespace FrontLint

namespace FileTree

/-- Entries that are not entered: hidden ones, and installed packages. -/
def isHidden (name : Text) : Bool := name.head? = some '.' || name = "node_modules".toList

mutual

/-- The names on the way to each file that is not hidden. -/
def visibleFiles : FileTree → List (List Text)
  | .file _ => [[]]
  | .directory entries => visibleIn entries

def visibleIn : List (Text × FileTree) → List (List Text)
  | [] => []
  | (name, t) :: rest =>
    (if isHidden name then [] else t.visibleFiles.map (name :: ·)) ++ visibleIn rest

end

end FileTree

namespace Discovery

def isSupported (p : Path) : Bool := (FileKind.ofPath? p).isSome

/-- The path of an entry below `base`. -/
def below (base : Path) (names : List Text) : Path := names.foldl (fun p n => p.join ⟨n⟩) base

/-- The files below a directory. -/
def inDirectory (base : Path) (filter : PathFilter) (t : FileTree) : List Path :=
  let names := t.visibleFiles.filter fun ns =>
    isSupported (below base ns) && filter.admits (Path.joinPieces ns)
  (names.map (below base)).mergeSort Path.le

/-- The files to scan for a path, with globs of what to include and to exclude. -/
def files (fs : FileSystem) (path : Path) (included excluded : List String) :
    Except GlobError (List Path) :=
  match fs.find path with
  | .ok (.file _) => .ok (if isSupported path then [path] else [])
  | .ok t => do return inDirectory path (← PathFilter.ofGlobs included excluded) t
  | .error _ => do
    let _ ← PathFilter.ofGlobs included excluded
    return []

/-- The directory that files are classified from: the scanned one, or that of a scanned file. -/
def scanRoot (fs : FileSystem) (path : Path) : Path :=
  if fs.isDirectory path then path else path.parent?.getD path

end Discovery

end FrontLint
