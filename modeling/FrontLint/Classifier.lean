/-
  FrontLint.Classifier — classes of files by globs over their paths, and the filter that admits
  paths to a scan. Paths are compared with `/` between components and without leading `./`.
-/

import FrontLint.Glob
import FrontLint.FileKind

namespace FrontLint

/-- A glob that cannot be read. -/
structure GlobError where
  pattern : String
  fault : Glob.Fault
  deriving DecidableEq, Repr

def GlobError.message (e : GlobError) : String :=
  "Invalid glob pattern '" ++ e.pattern ++ "': " ++ e.fault.message

namespace Glob

def compile (pattern : String) : Except GlobError Glob :=
  match Glob.ofString? pattern with
  | .ok g => .ok g
  | .error fault => .error ⟨pattern, fault⟩

/-- Reads all patterns; the first that cannot be read is the error. -/
def compileAll (patterns : List String) : Except GlobError (List Glob) := patterns.mapM compile

end Glob

/-- Drops every `./` at the front. -/
def dropHereMarks : Text → Text
  | '.' :: '/' :: rest => dropHereMarks rest
  | t => t

/-- The form of a path that globs see. -/
def globForm (t : Text) : Text := dropHereMarks (t.map fun c => if c = '\\' then '/' else c)

/-- The globs of each class, where they are set. -/
structure ClassGlobs where
  serverOnly : Option (List String)
  test : Option (List String)
  config : Option (List String)
  deriving DecidableEq, Repr

def ClassGlobs.unset : ClassGlobs := ⟨none, none, none⟩

structure Classifier where
  serverOnly : List Glob
  test : List Glob
  config : List Glob

namespace Classifier

def defaultServerOnly : List String := ["*.server.*", "*/server/*", "server/*"]

def defaultTest : List String := ["*.test.*", "*.spec.*", "*__tests__/*", "tests/*", "*/tests/*"]

def defaultConfig : List String :=
  ["*.config.*", ".*rc.js", "*/.*rc.js", ".*rc.cjs", "*/.*rc.cjs"]

/-- The classifier for these globs; a class that is not set has its default globs. -/
def ofGlobs (g : ClassGlobs) : Except GlobError Classifier := do
  let serverOnly ← Glob.compileAll (g.serverOnly.getD defaultServerOnly)
  let test ← Glob.compileAll (g.test.getD defaultTest)
  let config ← Glob.compileAll (g.config.getD defaultConfig)
  return { serverOnly, test, config }

def classify (c : Classifier) (path : Text) (kind : FileKind) : FileClass :=
  let form := globForm path
  { serverOnly := c.serverOnly.any (·.covers form)
    test := c.test.any (·.covers form)
    config := c.config.any (·.covers form)
    component := kind == .component }

end Classifier

/-- Which paths belong to a scan. -/
structure PathFilter where
  included : List Glob
  excluded : List Glob

namespace PathFilter

def ofGlobs (included excluded : List String) : Except GlobError PathFilter := do
  let included ← Glob.compileAll included
  let excluded ← Glob.compileAll excluded
  return { included, excluded }

/-- Included, or nothing is asked to be included, and not excluded. -/
def admits (f : PathFilter) (path : Text) : Bool :=
  let form := globForm path
  (f.included.isEmpty || f.included.any (·.covers form)) && !f.excluded.any (·.covers form)

end PathFilter

end FrontLint
