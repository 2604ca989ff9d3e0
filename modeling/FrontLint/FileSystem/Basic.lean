/-
  FrontLint.FileSystem.Basic — a file tree with a working directory, and the paths into it. A path
  is followed piece by piece; `..` goes to the directory above, which for the root is the root.

  An entry is a file or a directory. There are no symbolic links, so a name leads to what stands
  under it, and the directory above is the one that a path came through.
-/

import FrontLint.FileSystem.Tree
import FrontLint.Path

namespace FrontLint

/-- Why a path cannot be followed, or a file not be read. -/
inductive FileError where
  | notFound
  | notDirectory
  | isDirectory
  | notText
  deriving DecidableEq, Repr

def FileError.message : FileError → String
  | .notFound => "No such file or directory (os error 2)"
  | .notDirectory => "Not a directory (os error 20)"
  | .isDirectory => "Is a directory (os error 21)"
  | .notText => "stream did not contain valid UTF-8"

structure FileSystem where
  root : FileTree
  /-- The working directory, by the names on the way from the root. -/
  cwd : List Text

namespace FileSystem

/-- Follows pieces of a path from the directory `here`. -/
def walk (root : FileTree) (here : List Text) : List Text → Except FileError (List Text)
  | [] => .ok here
  | piece :: rest =>
    match root.get? here with
    | none => .error .notFound
    | some (.file _) => .error .notDirectory
    | some (.directory entries) =>
      if Path.isVoid piece then walk root here rest
      else if piece = ['.', '.'] then walk root here.dropLast rest
      else if (entries.lookup piece).isSome then walk root (here ++ [piece]) rest
      else .error .notFound

/-- Where a path is followed from. -/
def origin (fs : FileSystem) (p : Path) : List Text := if p.isAbsolute then [] else fs.cwd

/-- The names on the way from the root to what a path leads to. -/
def resolve (fs : FileSystem) (p : Path) : Except FileError (List Text) :=
  if p.text.isEmpty then .error .notFound
  else walk fs.root (fs.origin p) (Text.splitOn (· = '/') p.text)

/-- What a path leads to. -/
def find (fs : FileSystem) (p : Path) : Except FileError FileTree := do
  match fs.root.get? (← fs.resolve p) with
  | some t => return t
  | none => throw .notFound

def pathExists (fs : FileSystem) (p : Path) : Bool := (fs.find p).toOption.isSome

def isDirectory (fs : FileSystem) (p : Path) : Bool := (fs.find p).toOption.any (·.isDirectory)

/-- The text of a file. -/
def readText (fs : FileSystem) (p : Path) : Except FileError Text := do
  match ← fs.find p with
  | .directory _ => throw .isDirectory
  | .file content =>
    match String.fromUTF8? content with
    | some s => return s.toList
    | none => throw .notText

/-- The directory that a path's last piece stands in, and that piece, where it can name a file. With
a slash behind it, it names a directory. -/
def target (fs : FileSystem) (p : Path) : Except FileError (List Text × Text) :=
  let pieces := (Text.splitOn (· = '/') p.text).reverse
  match pieces.dropWhile List.isEmpty with
  | [] => .error (if p.text.isEmpty then .notFound else .isDirectory)
  | last :: front => do
    let here ← walk fs.root (fs.origin p) front.reverse
    match fs.root.get? here with
    | none => throw .notFound
    | some (.file _) => throw .notDirectory
    | some (.directory _) =>
      if Path.isVoid last || last = ['.', '.'] || pieces.head?.any List.isEmpty then
        throw .isDirectory
      else return (here, last)

/-- Writes a file, new or in place of an old one. The directory must be there. -/
def write (fs : FileSystem) (p : Path) (content : ByteArray) : Except FileError FileSystem := do
  let (here, name) ← fs.target p
  let names := here ++ [name]
  match fs.root.get? names with
  | some (.directory _) => throw .isDirectory
  | _ => return { fs with root := .put (.file content) fs.root names }

/-- The working directory as a path. -/
def cwdPath (fs : FileSystem) : Path := ⟨'/' :: Path.joinPieces fs.cwd⟩

end FileSystem

end FrontLint
