/-
  FrontLint.Position — where a byte offset lies in a text: its line and its column, both counted
  from 1, the column in characters.

  An offset inside a character is that character's place, an offset past the end is the end's.
  `lineCol` reads the text up to the offset each time. `LineIndex` keeps the offsets at which lines
  start and finds the line by binary search.
-/

import FrontLint.Text.Basic

namespace FrontLint

structure LineCol where
  line : Nat
  column : Nat
  deriving DecidableEq, Repr

namespace Text

/-- The characters since the last newline. -/
def lastLine (t : Text) : Text := (t.reverse.takeWhile (· ≠ '\n')).reverse

/-- The line and column of byte offset `offset`. -/
def lineCol (t : Text) (offset : Nat) : LineCol :=
  let before := t.take (t.charsBefore offset)
  ⟨newlines before + 1, (lastLine before).length + 1⟩

/-- The column of byte offset `offset` in a line. -/
def columnAt (line : Text) (offset : Nat) : Nat := line.charsBefore offset + 1

/-- The byte offsets just after each newline, for a text that starts at offset `base`. -/
def startsAfterNewlines (base : Nat) : Text → List Nat
  | [] => []
  | c :: t =>
    let next := base + c.utf8Size
    if c = '\n' then next :: startsAfterNewlines next t else startsAfterNewlines next t

/-- The part between two byte offsets that lie on character boundaries. -/
def slice (t : Text) (start stop : Nat) : Text :=
  (t.take (t.charsBefore stop)).drop (t.charsBefore start)

end Text

/-- The byte offsets at which the lines of a text start, ascending. -/
structure LineIndex where
  starts : Array Nat

namespace LineIndex

def ofText (t : Text) : LineIndex := ⟨(0 :: t.startsAfterNewlines 0).toArray⟩

def lineCount (ix : LineIndex) : Nat := ix.starts.size

/-- What a search comes to. -/
inductive Lookup where
  /-- A line starts at the offset: its index. -/
  | found (line : Nat)
  /-- None does: the index of the first that starts past it. -/
  | missing (next : Nat)
  deriving DecidableEq, Repr

/-- Looks for `offset` among the starts with index from `lo` up to `hi`. -/
def search (ix : LineIndex) (offset lo hi : Nat) : Lookup :=
  if lo < hi then
    let mid := (lo + hi) / 2
    if ix.starts.getD mid 0 = offset then .found mid
    else if ix.starts.getD mid 0 < offset then ix.search offset (mid + 1) hi
    else ix.search offset lo mid
  else .missing lo
termination_by hi - lo
decreasing_by all_goals omega

/-- The line of byte offset `offset`. Past the end it is the last line. -/
def lineOf (ix : LineIndex) (offset : Nat) : Nat :=
  match ix.search offset 0 ix.starts.size with
  | .found line => line + 1
  | .missing next => next

/-- The line by the index, the column by counting from that line's start in `t`. -/
def lineCol (ix : LineIndex) (t : Text) (offset : Nat) : LineCol :=
  let floor := t.byteOffset (t.charsBefore offset)
  let line := ix.lineOf floor
  ⟨line, (t.slice (ix.starts.getD (line - 1) 0) floor).length + 1⟩

end LineIndex

end FrontLint
