/-
  FrontLint.Main — the program: reads what the command needs of the real file system, runs the
  command on it, prints and writes what comes out.
-/

import FrontLint.Command.Run

namespace FrontLint.Snapshot

/-- Where a path leads if every name on its way is a directory. -/
def placeOf (fs : FileSystem) (p : Path) : List Text :=
  (Text.splitOn (· = '/') p.text).foldl (fun here piece =>
    if Path.isVoid piece then here
    else if piece = ['.', '.'] then here.dropLast
    else here ++ [piece]) (fs.origin p)

/-- A file, or a directory without its entries. -/
def readNode (p : String) : IO (Option FileTree) := do
  let full := (← IO.currentDir) / p
  if ← full.isDir then return some (.directory [])
  try return some (.file (← IO.FS.readBinFile full)) catch _ => return none

/-- A directory with all that a scan may look at. -/
partial def readTree (p : String) : IO (Option FileTree) := do
  let full := (← IO.currentDir) / p
  if ← full.isDir then
    let mut entries : List (Text × FileTree) := []
    for e in ← full.readDir do
      let name := e.fileName.toList
      if !FileTree.isHidden name then
        if let some t ← readTree (p ++ "/" ++ e.fileName) then
          entries := (name, t) :: entries
    return some (.directory entries)
  else if Discovery.isSupported (.ofString p) then readNode p
  else return some (.file .empty)

/-- Adds what stands at a path, if anything does. -/
def add (read : String → IO (Option FileTree)) (fs : FileSystem) (p : Path) : IO FileSystem := do
  match ← read p.toString with
  | some t => return { fs with root := .put t fs.root (placeOf fs p) }
  | none => return fs

def addMissing (fs : FileSystem) (p : Path) : IO FileSystem :=
  if fs.pathExists p then return fs else add readNode fs p

/-- Adds the settings for a path, and the catalog that they name. -/
def addSettings (fs : FileSystem) (start : Path) (named : Option Path) : IO FileSystem := do
  let fs ← (Settings.candidates start).foldlM addMissing fs
  let catalog := match Settings.discover fs start with
    | .ok loaded => named.or loaded.settings.catalog
    | .error _ => named
  catalog.toList.foldlM addMissing fs

def ofCommand (fs : FileSystem) : Command → IO FileSystem
  | .check o => do
    let fs ← add readTree fs o.path
    let fs ← addSettings fs o.path o.catalog
    let outputs := (o.output.bind (·.parent?)).toList ++ o.output.toList
    outputs.foldlM addMissing fs
  | .rules _ catalog => addSettings fs fs.cwdPath catalog
  | .explain _ catalog => addSettings fs fs.cwdPath catalog

/-- The working directory, still empty. -/
def start : IO FileSystem := do
  let names := Text.splitOn (· = '/') (toString (← IO.currentDir)).toList
  let cwd := names.filter (!·.isEmpty)
  return { root := .put (.directory []) (.directory []) cwd, cwd }

/-- Styles are on where they are forced, or where a terminal shows them. -/
def colorAllowed : IO Bool := do
  if (← IO.getEnv "NO_COLOR").isSome then return false
  let forced := ((← IO.getEnv "CLICOLOR_FORCE").getD "0") ≠ "0"
  let wanted := ((← IO.getEnv "CLICOLOR").getD "1") ≠ "0"
  return forced || (wanted && (← (← IO.getStdout).isTty))

end FrontLint.Snapshot

open FrontLint in
def main (args : List String) : IO UInt32 := do
  let request := Arguments.parse args
  let files ← match request with
    | .command c => Snapshot.ofCommand (← Snapshot.start) c
    | _ => Snapshot.start
  let out := request.run { files, color := ← Snapshot.colorAllowed }
  if let some (path, text) := out.written then
    IO.FS.writeFile path.toString (String.ofList text)
  IO.eprint (String.ofList out.stderr)
  IO.print (String.ofList out.stdout)
  return out.exitCode.toUInt32
