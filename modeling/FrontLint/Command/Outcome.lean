/-
  FrontLint.Command.Outcome — what a command leaves behind: an exit code, what it prints, and the
  file it writes, if any.
-/

import FrontLint.FileSystem.Basic

namespace FrontLint

/-- What a command runs in. -/
structure Environment where
  files : FileSystem
  /-- Whether printed text may be styled. -/
  color : Bool

structure Outcome where
  exitCode : Nat
  stdout : Text
  stderr : Text
  written : Option (Path × Text)

/-- Why a command was given up: what it could not do, and what stood behind that, outermost
first. -/
structure Failure where
  message : String
  causes : List String
  deriving DecidableEq, Repr

namespace Failure

def ofMessage (message : String) : Failure := ⟨message, []⟩

/-- A text whose lines after the first are moved in by `margin` spaces. -/
def hang (margin : Nat) (t : Text) : Text :=
  t.flatMap fun c => if c = '\n' then '\n' :: Text.spaces margin else [c]

def numberedCause (n : Nat) (cause : String) : Text :=
  let label := Text.decimal n
  '\n' :: Text.spaces (5 - label.length) ++ label ++ [':', ' '] ++ hang 7 cause.toList

/-- The causes below the message; several are numbered. -/
def causeLines : List String → Text
  | [] => []
  | [cause] => "\n\nCaused by:\n    ".toList ++ hang 4 cause.toList
  | causes =>
    "\n\nCaused by:".toList ++ (causes.zipIdx.flatMap fun (cause, n) => numberedCause n cause)

def render (f : Failure) : Text :=
  "Error: ".toList ++ f.message.toList ++ causeLines f.causes ++ ['\n']

end Failure

namespace Outcome

def printed (stdout stderr : Text) : Outcome := ⟨0, stdout, stderr, none⟩

/-- A command that fails after it has printed `stderr`. -/
def failed (stderr : Text) (f : Failure) : Outcome := ⟨1, [], stderr ++ f.render, none⟩

end Outcome

end FrontLint
