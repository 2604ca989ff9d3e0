/-
  FrontLint.Block.Span — the regions between an opening tag and the next closing tag of the same
  name. A block that is never closed runs to the end of the text; a self-closing tag opens none, and
  tags inside a body are part of it.

  Places are counted in characters from the start of the text; `Span.inBytes` gives byte offsets.
-/

import FrontLint.Position
import FrontLint.Block.Tag

namespace FrontLint.Block

/-- One region of a text: the body from `start` up to `stop`, and the end of its closing tag. -/
structure Span where
  start : Nat
  stop : Nat
  closeEnd : Nat
  deriving DecidableEq, Repr

/-- Reads on at place `i`, inside a body that began at `body` or outside any, after passing over
`skip` characters of the tag just read. -/
def spansFrom (name : Text) : Option Nat → Nat → Nat → Text → List Span
  | none, _, _, [] => []
  | some body, _, i, [] => [⟨body, i, i⟩]
  | body, skip + 1, i, _ :: t => spansFrom name body skip (i + 1) t
  | none, 0, i, c :: t =>
    match openLength? name (c :: t) with
    | none => spansFrom name none 0 (i + 1) t
    | some n =>
      let body := if isSelfClosing ((c :: t).take n) then none else some (i + n)
      spansFrom name body (n - 1) (i + 1) t
  | some body, 0, i, c :: t =>
    match closeLength? name (c :: t) with
    | none => spansFrom name (some body) 0 (i + 1) t
    | some n => ⟨body, i, i + n⟩ :: spansFrom name none (n - 1) (i + 1) t

/-- The regions of tag `name`, in order. -/
def spans (name t : Text) : List Span := spansFrom name none 0 0 t

/-- The same region in byte offsets of `t`. -/
def Span.inBytes (s : Span) (t : Text) : Span :=
  ⟨t.byteOffset s.start, t.byteOffset s.stop, t.byteOffset s.closeEnd⟩

def Span.body (s : Span) (t : Text) : Text := (t.take s.stop).drop s.start

end FrontLint.Block

namespace FrontLint

/-- A body with its place: the lines from `startLine` up to `endLine`, counted from 0. The text
before the body on its first line is blanked, so columns agree with the outer text. -/
structure Block where
  text : Text
  startLine : Nat
  endLine : Nat
  deriving DecidableEq, Repr

end FrontLint

namespace FrontLint.Block

def hasLine (b : Block) (line : Nat) : Bool := b.startLine ≤ line && line < b.endLine

def ofSpan (t : Text) (s : Span) : Block where
  text := Text.spaces (Text.lastLine (t.take s.start)).length ++ s.body t
  startLine := Text.newlines (t.take s.start)
  endLine := Text.newlines (t.take s.closeEnd) + 1

/-- The blocks of tag `name`. -/
def all (name t : Text) : List Block := (spans name t).map (ofSpan t)

/-- A text with all but its newlines replaced by spaces, one for each character. -/
def maskText (t : Text) : Text := t.map fun c => if c = '\n' then '\n' else ' '

/-- Masks the bodies of spans, from place `i` on; `t` is the text from there. -/
def maskFrom (i : Nat) (t : Text) : List Span → Text
  | [] => t
  | s :: rest =>
    t.take (s.start - i) ++ maskText ((t.take (s.stop - i)).drop (s.start - i)) ++
      maskFrom s.stop (t.drop (s.stop - i)) rest

/-- The text with the body of every span blanked, lines and columns unchanged. -/
def mask (t : Text) (spans : List Span) : Text := maskFrom 0 t spans

end FrontLint.Block
