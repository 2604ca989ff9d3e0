/-
  FrontLint.Settings.Search — reading a settings file, and looking for one in a directory and in
  those above it. A file that is there and cannot be used is an error; only where there is none do
  the defaults hold.
-/

import FrontLint.FileSystem.Basic
import FrontLint.Settings.Basic

namespace FrontLint

namespace Settings

/-- The name of a settings file. -/
def fileName : Path := .ofString "glint.toml"

inductive LoadError where
  | read (path : Path) (e : FileError)
  | malformed (path : Path)
  | misfit (path : Path) (m : Toml.Misfit)

/-- What is said of a document that cannot be read at all is not settled here. -/
def LoadError.message : LoadError → String
  | .read path e => "Failed to read config file '" ++ path.toString ++ "': " ++ e.message
  | .malformed path => "Invalid TOML in '" ++ path.toString ++ "': "
  | .misfit path m => "Invalid TOML in '" ++ path.toString ++ "': " ++ m.message

/-- Settings with the warnings about their source. -/
structure Loaded where
  settings : Settings
  warnings : List String

def Loaded.default : Loaded := ⟨.unset, []⟩

/-- A relative catalog is looked for from the directory of the settings file. -/
def rebase (path : Path) (s : Settings) : Settings :=
  match path.parent? with
  | some base => { s with catalog := s.catalog.map base.join }
  | none => s

/-- Reads the settings file at a path. -/
def load (fs : FileSystem) (path : Path) : Except LoadError Loaded :=
  match fs.readText path with
  | .error e => .error (.read path e)
  | .ok source =>
    match Toml.parse? source with
    | none => .error (.malformed path)
    | some root =>
      match ofTable root with
      | .error m => .error (.misfit path m)
      | .ok s => .ok ⟨s.rebase path, Settings.warnings root⟩

/-- A path and those that are left as its last component is dropped again and again, at most `n`
times. -/
def ancestors : Nat → Path → List Path
  | 0, p => [p]
  | n + 1, p =>
    match p.parent? with
    | some q => p :: ancestors n q
    | none => [p]

/-- The places where the settings for a path may stand, nearest first. -/
def candidates (start : Path) : List Path :=
  (ancestors (start.components.length + 1) start).map (·.join fileName)

/-- The nearest settings file. -/
def search (fs : FileSystem) (start : Path) : Option Path := (candidates start).find? fs.pathExists

/-- The settings for a path. -/
def discover (fs : FileSystem) (start : Path) : Except LoadError Loaded :=
  match search fs start with
  | some path => load fs path
  | none => .ok .default

end Settings

end FrontLint
