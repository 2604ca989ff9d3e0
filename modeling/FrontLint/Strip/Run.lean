/-
  FrontLint.Strip.Run — stripping line after line. `strip` takes one line and the state before it;
  a `Stripper` carries the state along, and `stripLines` does so for a whole list of lines.
-/

import FrontLint.Strip.Script
import FrontLint.Strip.Style
import FrontLint.Strip.Markup

namespace FrontLint

/-- The line with its comments blanked, and the state after it. -/
def strip (mode : Mode) (line : Text) (s : Strip.State) : Text × Strip.State :=
  match mode with
  | .script => Strip.script line s
  | .style => Strip.style line s
  | .markup => Strip.markup line s

/-- The mode of a run of lines and the state after the lines read so far. -/
structure Stripper where
  mode : Mode
  state : Strip.State

namespace Stripper

def start (mode : Mode) : Stripper := ⟨mode, .neutral⟩

def step (s : Stripper) (line : Text) : Text × Stripper :=
  let (cleaned, state) := strip s.mode line s.state
  (cleaned, { s with state })

/-- Forgets what is open, as at the start of an independent run. -/
def reset (s : Stripper) : Stripper := { s with state := .neutral }

end Stripper

/-- Each line cleaned, with the state after it. -/
def stripLines (mode : Mode) : List Text → Strip.State → List (Text × Strip.State)
  | [], _ => []
  | line :: rest, s =>
    let (cleaned, s) := strip mode line s
    (cleaned, s) :: stripLines mode rest s

end FrontLint
