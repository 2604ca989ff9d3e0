/-
  FrontLint.FileKind — what a source file is. Its kind, told by the extension, decides how it is cut
  into passes; its class, told by the path, decides which rules run over it.
-/

import FrontLint.Path

namespace FrontLint

inductive FileKind where
  | component
  | script
  | style
  deriving DecidableEq, Repr

namespace FileKind

def componentExtensions : List String := ["svelte", "vue", "html", "htm"]

def scriptExtensions : List String := ["js", "jsx", "ts", "tsx", "mjs", "cjs", "mts", "cts"]

def styleExtensions : List String := ["css", "scss", "pcss", "postcss"]

/-- The kind of a path, by its extension in any ASCII case. -/
def ofPath? (p : Path) : Option FileKind := do
  let ext := Text.toString (Text.asciiLower (← p.extension?))
  if componentExtensions.contains ext then some .component
  else if scriptExtensions.contains ext then some .script
  else if styleExtensions.contains ext then some .style
  else none

end FileKind

/-- The classes that a rule may be excluded from. -/
inductive ClassTag where
  | serverOnly
  | test
  | config
  | component
  deriving DecidableEq, Repr

def ClassTag.name : ClassTag → String
  | .serverOnly => "server-only"
  | .test => "test"
  | .config => "config"
  | .component => "component"

/-- The classes a file belongs to. -/
structure FileClass where
  serverOnly : Bool
  test : Bool
  config : Bool
  component : Bool
  deriving DecidableEq, Repr

def FileClass.has (c : FileClass) : ClassTag → Bool
  | .serverOnly => c.serverOnly
  | .test => c.test
  | .config => c.config
  | .component => c.component

end FrontLint
