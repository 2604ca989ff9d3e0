/-
  FrontLint.Pattern.CharClass — classes of characters as a pattern writes them, and the sets they
  stand for under given flags.

  Without the flag for all scripts a class holds ASCII characters only. A class that would hold
  others is refused, and so is every negated one.
-/

import FrontLint.Text.CaseFold
import FrontLint.Pattern.Flags
import FrontLint.Pattern.Look

namespace FrontLint.Pattern

inductive Shorthand where
  | digit
  | blank
  | word
  deriving DecidableEq, Repr

def Shorthand.toSet (k : Shorthand) (unicode : Bool) : CharSet :=
  match k with
  | .digit => if unicode then digits else asciiDigits
  | .blank => if unicode then blanks else asciiBlanks
  | .word => if unicode then wordChars else asciiWordChars

inductive CharClass where
  | empty
  | range (lo hi : Char)
  | shorthand (k : Shorthand) (negated : Bool)
  /-- The characters with a property. -/
  | property (s : CharSet) (negated : Bool)
  | union (a b : CharClass)
  | inter (a b : CharClass)
  | diff (a b : CharClass)
  | symmDiff (a b : CharClass)
  | bracket (negated : Bool) (c : CharClass)
  deriving Repr

namespace CharClass

/-- The letters of ASCII that are equal up to case to a member, with all members. -/
def asciiAnyCase (s : CharSet) : CharSet :=
  let letters := (List.range 26).filter fun i => s.hasCode (0x41 + i) || s.hasCode (0x61 + i)
  s.union (.ofRanges (letters.flatMap fun i => [(0x41 + i, 0x41 + i), (0x61 + i, 0x61 + i)]))

/-- Closes a set under change of case, if the flags ask for it. -/
def close (f : Flags) (s : CharSet) : CharSet :=
  if f.anyCase then (if f.unicode then s.anyCase else asciiAnyCase s) else s

/-- Closes a set and then negates it. -/
def finish (f : Flags) (negated : Bool) (s : CharSet) : Option CharSet :=
  let s := close f s
  if negated then (if f.unicode then some s.compl else none) else some s

/-- The set of a class. A bracket is closed under change of case before it is negated, and so is
each side of a set operation. -/
def toSet? (f : Flags) : CharClass → Option CharSet
  | empty => some .empty
  | range lo hi => if f.unicode || hi.toNat < 128 then some (.range lo hi) else none
  | shorthand k negated =>
    let s := k.toSet f.unicode
    if negated then (if f.unicode then some s.compl else none) else some s
  | property s negated => if f.unicode then finish f negated s else none
  | union a b => do return (← a.toSet? f).union (← b.toSet? f)
  | inter a b => do return (close f (← a.toSet? f)).inter (close f (← b.toSet? f))
  | diff a b => do return (close f (← a.toSet? f)).diff (close f (← b.toSet? f))
  | symmDiff a b => do return (close f (← a.toSet? f)).symmDiff (close f (← b.toSet? f))
  | bracket negated c => do finish f negated (← c.toSet? f)

/-- The ASCII classes that a bracket may name, as in `[[:alpha:]]`. -/
def ascii? (name : String) : Option CharClass :=
  let ranges (rs : List (Char × Char)) : Option CharClass :=
    some (rs.foldl (fun c (lo, hi) => .union c (.range lo hi)) .empty)
  match name with
  | "alnum" => ranges [('0', '9'), ('A', 'Z'), ('a', 'z')]
  | "alpha" => ranges [('A', 'Z'), ('a', 'z')]
  | "ascii" => ranges [('\x00', '\x7F')]
  | "blank" => ranges [('\t', '\t'), (' ', ' ')]
  | "cntrl" => ranges [('\x00', '\x1F'), ('\x7F', '\x7F')]
  | "digit" => ranges [('0', '9')]
  | "graph" => ranges [('!', '~')]
  | "lower" => ranges [('a', 'z')]
  | "print" => ranges [(' ', '~')]
  | "punct" => ranges [('!', '/'), (':', '@'), ('[', '`'), ('\x7B', '~')]
  | "space" => ranges [('\t', '\r'), (' ', ' ')]
  | "upper" => ranges [('A', 'Z')]
  | "word" => ranges [('0', '9'), ('A', 'Z'), ('_', '_'), ('a', 'z')]
  | "xdigit" => ranges [('0', '9'), ('A', 'F'), ('a', 'f')]
  | _ => none

end CharClass

end FrontLint.Pattern
