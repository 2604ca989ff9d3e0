/-
  FrontLint.Block.Component — a component file split in its script blocks, its style blocks and the
  markup that is left, with the bodies blanked.

  The spans of the two tags are found one tag at a time and merged by where their bodies start; a
  span that starts before the last kept one ends is dropped.
-/

import FrontLint.Block.Span

namespace FrontLint

inductive BlockKind where
  | script
  | style
  deriving DecidableEq, Repr

def BlockKind.tag : BlockKind → Text
  | .script => Text.ofString "script"
  | .style => Text.ofString "style"

structure Component where
  scripts : List Block
  styles : List Block
  residue : Text

namespace Component

/-- Keeps each span that does not start before place `limit`, the end of the last kept one. -/
def keepDisjoint (limit : Nat) : List (BlockKind × Block.Span) → List (BlockKind × Block.Span)
  | [] => []
  | (kind, s) :: rest =>
    if s.start < limit then keepDisjoint limit rest
    else (kind, s) :: keepDisjoint s.closeEnd rest

/-- The script and style spans of a component, in text order. -/
def spans (t : Text) : List (BlockKind × Block.Span) :=
  let found := [BlockKind.script, .style].flatMap fun kind =>
    (Block.spans kind.tag t).map (kind, ·)
  keepDisjoint 0 (found.mergeSort fun a b => a.2.start ≤ b.2.start)

def split (t : Text) : Component :=
  let found := spans t
  let blocks (kind : BlockKind) : List Block :=
    (found.filter (·.1 == kind)).map fun s => Block.ofSpan t s.2
  { scripts := blocks .script
    styles := blocks .style
    residue := Block.mask t (found.map (·.2)) }

end Component

end FrontLint
