/-
  FrontLint.Pattern.Grammar — from the tokens of a pattern to its regular expression. Tokens are
  taken one by one; groups that are still open wait on a stack with the flags to go back to.

  A pattern has no group open at its end, no repetition without something to repeat, no group name
  twice, and limited nesting. Without the flag for all scripts it must not match part of a
  character.
-/

import FrontLint.Pattern.Regex
import FrontLint.Pattern.Token

namespace FrontLint.Pattern

/-- An expression with the nesting depth of its written form. A change of flags is a piece too, but
one that cannot be repeated. -/
structure Piece where
  regex : Regex
  depth : Nat
  repeatable : Bool

namespace Piece

def atom (r : Regex) : Piece := ⟨r, 0, true⟩

/-- Joins pieces by `join`, one level deeper than the deepest. A single piece stays as it is. -/
def fold (join : List Regex → Regex) : List Piece → Piece
  | [] => atom .empty
  | [p] => p
  | ps => ⟨join (ps.map (·.regex)), (ps.map (·.depth)).foldl max 0 + 1, true⟩

end Piece

/-- A group that is still open: its number if it has one, the flags outside it, its finished
alternatives and the pieces of the current one, both backwards. -/
structure Level where
  number : Option Nat
  outside : Flags
  alternatives : List Piece
  sequence : List Piece

namespace Level

def start (number : Option Nat) (outside : Flags) : Level := ⟨number, outside, [], []⟩

def push (l : Level) (p : Piece) : Level := { l with sequence := p :: l.sequence }

def bar (l : Level) : Level :=
  { l with
    alternatives := .fold .concat l.sequence.reverse :: l.alternatives
    sequence := [] }

/-- All that stands in the group. -/
def content (l : Level) : Piece := .fold .alternate l.bar.alternatives.reverse

/-- The whole group. -/
def finish (l : Level) : Piece :=
  let p := l.content
  let r := match l.number with
    | some n => .group n p.regex
    | none => p.regex
  ⟨r, p.depth + 1, true⟩

end Level

structure Builder where
  flags : Flags
  level : Level
  outer : List Level
  /-- How many numbered groups there are so far. -/
  groups : Nat
  names : List Text

namespace Builder

def start : Builder := ⟨.initial, .start none .initial, [], 0, []⟩

def push (b : Builder) (p : Piece) : Builder := { b with level := b.level.push p }

def pushAtom (b : Builder) (r : Regex) : Builder := b.push (.atom r)

/-- A character under given flags. Without the flag for all scripts, a raw one is a byte, and only
the bytes of ASCII are characters. -/
def charRegex? (f : Flags) (c : Char) (raw : Bool) : Option Regex :=
  if !f.unicode && raw && 128 ≤ c.toNat then none
  else if !f.anyCase then some (.text [c])
  else if f.unicode then some (.ofSet (.ofChars (Text.caseVariants c)))
  else some (.ofSet (CharClass.asciiAnyCase (.single c)))

def dotRegex? (f : Flags) : Option Regex :=
  if !f.unicode then none
  else if f.dotAll then some (.one .full)
  else if f.returns then some (.one (CharSet.ofChars ['\n', '\r']).compl)
  else some (.one (CharSet.single '\n').compl)

def step (b : Builder) : Token → Option Builder
  | .char c raw => do return b.pushAtom (← charRegex? b.flags c raw)
  | .dot => do return b.pushAtom (← dotRegex? b.flags)
  | .cls c => do return b.push ⟨.ofSet (← c.cls.toSet? b.flags), c.depth, true⟩
  | .textStart => some (b.pushAtom (.look .textStart))
  | .textEnd => some (b.pushAtom (.look .textEnd))
  | .edge e => some (b.pushAtom (.look (.edge e !b.flags.unicode)))
  | .caret =>
    let l := if b.flags.multiLine then .lineStart b.flags.returns else .textStart
    some (b.pushAtom (.look l))
  | .dollar =>
    let l := if b.flags.multiLine then .lineEnd b.flags.returns else .textEnd
    some (b.pushAtom (.look l))
  | .bar => some { b with level := b.level.bar }
  | .flags changes =>
    some { b.push ⟨.empty, 0, false⟩ with flags := changes.foldl Flags.apply b.flags }
  | .group numbered name changes =>
    if name.any b.names.contains then none
    else
      let groups := if numbered then b.groups + 1 else b.groups
      some {
        flags := changes.foldl Flags.apply b.flags
        level := .start (if numbered then some groups else none) b.flags
        outer := b.level :: b.outer
        groups
        names := name.toList ++ b.names }
  | .close =>
    match b.outer with
    | [] => none
    | l :: outer =>
      some { b with flags := b.level.outside, level := l.push b.level.finish, outer }
  | .rep least most greedy =>
    match b.level.sequence with
    | [] => none
    | p :: rest =>
      if p.repeatable then
        let r := p.regex.rounds least most (greedy != b.flags.swapGreed)
        some { b with level := { b.level with sequence := ⟨r, p.depth + 1, true⟩ :: rest } }
      else none

/-- Takes the tokens of a text. Each takes a character at least, so the text's length bounds their
number. -/
def run : Nat → Builder → Text → Option Builder
  | 0, _, _ => none
  | n + 1, b, t => do
    let (_, t) ← Token.skip b.flags.verbose t
    if t.isEmpty then return b
    let (token, rest) ← Token.read b.flags.verbose t
    run n (← b.step token) rest

def finish (b : Builder) : Option Regex :=
  let whole := b.level.content
  if b.outer.isEmpty ∧ whole.depth ≤ Token.nestLimit then some whole.regex else none

end Builder

/-- Reads the written form of an expression. -/
def Regex.parse? (t : Text) : Option Regex := do
  (← Builder.run (t.length + 1) .start t).finish

end FrontLint.Pattern
