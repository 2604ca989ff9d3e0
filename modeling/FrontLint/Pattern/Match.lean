/-
  FrontLint.Pattern.Match — patterns, and their matches in a text from left to right.

  At each place the pattern either has a match that starts there or not. The first place that has
  one gives a match, and the search goes on where it ends, or one character on if it is empty. So
  matches never overlap, and a place where the pattern has a match is the start of a given match or
  lies inside one.
-/

import FrontLint.Pattern.Trail

namespace FrontLint

/-- A part of a text: its byte offsets and itself. -/
structure Match where
  start : Nat
  stop : Nat
  text : Text
  deriving DecidableEq, Repr

namespace Match

/-- The matches from byte offset `offset` on, passing over the first `skip` characters of the text.
`length?` says how many characters the match takes that starts at the front of a text. -/
def allFrom (length? : Option Char → Text → Option Nat) :
    Option Char → Nat → Nat → Text → List Match
  | _, skip + 1, offset, c :: t => allFrom length? (some c) skip (offset + c.utf8Size) t
  | _, _ + 1, _, [] => []
  | before, 0, offset, [] =>
    match length? before [] with
    | some _ => [⟨offset, offset, []⟩]
    | none => []
  | before, 0, offset, c :: t =>
    match length? before (c :: t) with
    | some n =>
      let found := (c :: t).take n
      ⟨offset, offset + Text.width found, found⟩ ::
        allFrom length? (some c) (n - 1) (offset + c.utf8Size) t
    | none => allFrom length? (some c) 0 (offset + c.utf8Size) t

end Match

namespace Pattern

/-- The matches of a program, or only the first, found by attempts that follow the trails of those
before them. -/
def Program.matchesFrom (p : Program) (onlyFirst : Bool) :
    Trail → Option Char → Nat → Nat → Text → List Match
  | trail, _, skip + 1, offset, c :: t =>
    p.matchesFrom onlyFirst trail.tail (some c) skip (offset + c.utf8Size) t
  | _, _, _ + 1, _, [] => []
  | trail, before, 0, offset, [] =>
    match p.attempt trail before [] with
    | (some _, _) => [⟨offset, offset, []⟩]
    | (none, _) => []
  | trail, before, 0, offset, c :: t =>
    match p.attempt trail before (c :: t) with
    | (some n, trail) =>
      let found := (c :: t).take n
      ⟨offset, offset + Text.width found, found⟩ ::
        if onlyFirst then []
        else p.matchesFrom onlyFirst trail.tail (some c) (n - 1) (offset + c.utf8Size) t
    | (none, trail) => p.matchesFrom onlyFirst trail.tail (some c) 0 (offset + c.utf8Size) t

/-- Following trails finds the matches that trying each place finds. -/
theorem Program.matchesFrom_eq (p : Program) (onlyFirst : Bool) {trail : Trail}
    (before : Option Char) (skip offset : Nat) {t : Text} (h : p.Fails t trail) :
    p.matchesFrom onlyFirst trail before skip offset t =
      let all := Match.allFrom p.matchLength? before skip offset t
      if onlyFirst then all.take 1 else all := by
  induction t generalizing trail before skip offset with
  | nil =>
    cases skip with
    | succ _ => simp [matchesFrom, Match.allFrom]
    | zero =>
      rw [matchesFrom, Match.allFrom, ← (attempt_eq before h).1]
      split <;> simp_all
  | cons c t ih =>
    cases skip with
    | succ skip => simpa [matchesFrom, Match.allFrom] using ih (some c) skip _ h.tail
    | zero =>
      obtain ⟨h1, h2⟩ := attempt_eq before h
      rw [matchesFrom, Match.allFrom, ← h1]
      split
      · rename_i hm
        rw [hm] at h2
        cases onlyFirst <;> simp [hm, ih (some c) _ _ h2]
      · rename_i hm
        rw [hm] at h2
        simp [hm, ih (some c) _ _ h2]

end Pattern

/-- A regular expression with its written form. -/
structure Pattern where
  source : String
  program : Pattern.Program

namespace Pattern

def ofString (s : String) : Except Fault Pattern :=
  (Regex.ofText s.toList).map fun r => ⟨s, .ofRegex r⟩

/-- All matches in a text, or only the first. -/
def findMatches (p : Pattern) (t : Text) (onlyFirst : Bool) : List Match :=
  p.program.matchesFrom onlyFirst [] none 0 0 t

theorem findMatches_eq (p : Pattern) (t : Text) (onlyFirst : Bool) :
    p.findMatches t onlyFirst =
      let all := Match.allFrom p.program.matchLength? none 0 0 t
      if onlyFirst then all.take 1 else all :=
  p.program.matchesFrom_eq onlyFirst none 0 0 trivial

/-- Whether the pattern has a match in a text. -/
def occursIn (p : Pattern) (t : Text) : Bool := !(p.findMatches t true).isEmpty

end Pattern

end FrontLint
