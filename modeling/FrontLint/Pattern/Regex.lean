/-
  FrontLint.Pattern.Regex — regular expressions and how they are preferred. Alternatives are tried
  from left to right, a greedy repetition prefers more rounds and a lazy one fewer.

  Expressions are built in a normal form: neighbouring texts are one text, sequences and
  alternatives lean to the right, alternatives that are single characters are one set, and what all
  alternatives start with stands before them once.
-/

import FrontLint.Text.Basic
import FrontLint.Pattern.Look

namespace FrontLint.Pattern

inductive Regex where
  | empty
  | text (t : Text)
  /-- One character of a set. -/
  | one (s : CharSet)
  | look (l : Look)
  /-- A numbered group. -/
  | group (number : Nat) (r : Regex)
  | cat (a b : Regex)
  | alt (a b : Regex)
  /-- From `min` rounds of `r` to `max`, or without limit. -/
  | rep (r : Regex) (min : Nat) (max : Option Nat) (greedy : Bool)
  deriving DecidableEq, Repr

namespace Regex

/-! ## Widths -/

/-- The fewest characters that a match takes; none if some part that is needed can match nothing
at all. -/
def leastWidth? : Regex → Option Nat
  | empty => some 0
  | text t => some t.length
  | one s => if s.isEmpty then none else some 1
  | look _ => some 0
  | group _ r => r.leastWidth?
  | cat a b => do return (← a.leastWidth?) + (← b.leastWidth?)
  | alt a b => do return min (← a.leastWidth?) (← b.leastWidth?)
  | rep r least _ _ => do return (← r.leastWidth?) * least

/-- Every match takes at least one character. -/
def takesSome (r : Regex) : Bool := r.leastWidth?.any (0 < ·)

/-- No match takes a character. -/
def isWidthless : Regex → Bool
  | empty => true
  | text t => t.isEmpty
  | one _ => false
  | look _ => true
  | group _ r => r.isWidthless
  | cat a b => a.isWidthless && b.isWidthless
  | alt a b => a.isWidthless && b.isWidthless
  | rep r _ most _ => most.isSome && r.isWidthless

/-- How many parts the expression has. -/
def parts : Regex → Nat
  | empty | text _ | one _ | look _ => 1
  | group _ r | rep r _ _ _ => r.parts + 1
  | cat a b | alt a b => a.parts + b.parts + 1

/-! ## Sets and repetitions -/

/-- One character of a set; a set of one character is a text. -/
def ofSet (s : CharSet) : Regex :=
  match s.only? with
  | some c => text [c]
  | none => one s

/-- Rounds of an expression. What takes no characters needs one round at most. -/
def rounds (r : Regex) (least : Nat) (most : Option Nat) (greedy : Bool) : Regex :=
  let (least, most) :=
    if r.isWidthless then (min least 1, some (min (most.getD 1) 1)) else (least, most)
  match least, most with
  | 0, some 0 => empty
  | 1, some 1 => r
  | _, _ => rep r least most greedy

/-! ## Sequences -/

/-- The members of a sequence. -/
def pieces : Regex → List Regex
  | empty => []
  | cat a b => a.pieces ++ b.pieces
  | r => [r]

/-- Makes neighbouring texts one. -/
def joinTexts : List Regex → List Regex
  | [] => []
  | text t :: rest =>
    match joinTexts rest with
    | text u :: more => text (t ++ u) :: more
    | more => text t :: more
  | r :: rest => r :: joinTexts rest

def inSequence : List Regex → Regex
  | [] => empty
  | [r] => r
  | r :: rest => cat r (inSequence rest)

def concat (rs : List Regex) : Regex := inSequence (joinTexts (rs.flatMap pieces))

/-! ## Alternatives -/

/-- The members of a list of alternatives. -/
def branches : Regex → List Regex
  | alt a b => a.branches ++ b.branches
  | r => [r]

def inOrder : List Regex → Regex
  | [] => one .empty
  | [r] => r
  | r :: rest => alt r (inOrder rest)

/-- The set of the characters that are the only match of one of the expressions, if each has one. -/
def singleChars? (rs : List Regex) : Option CharSet :=
  (rs.mapM fun | text [c] => some c | _ => none).map .ofChars

/-- The union of expressions that are sets. -/
def unionOfSets? (rs : List Regex) : Option CharSet :=
  (rs.mapM fun | one s => some s | _ => none).map .unionAll

def commonPrefix : List Regex → List Regex → List Regex
  | a :: as, b :: bs => if a = b then a :: commonPrefix as bs else []
  | _, _ => []

/-- What sequences have in common at their start. An expression that is no sequence of several has
nothing in common with others. -/
def sharedStart : List Regex → List Regex
  | [] => []
  | r :: rest =>
    if (r :: rest).all (1 < ·.pieces.length) then
      rest.foldl (fun common r => commonPrefix common r.pieces) r.pieces
    else []

/-- The alternatives in order. Each round takes a shared start off all of them, so as many rounds as
there are parts are enough. -/
def alternateIn : Nat → List Regex → Regex
  | 0, rs => inOrder rs
  | n + 1, rs =>
    let rs := rs.flatMap branches
    match rs with
    | [] => one .empty
    | [r] => r
    | _ =>
      match singleChars? rs <|> unionOfSets? rs with
      | some s => ofSet s
      | none =>
        match sharedStart rs with
        | [] => inOrder rs
        | start =>
          let rests := rs.map fun r => concat (r.pieces.drop start.length)
          concat (start ++ [alternateIn n rests])

def alternate (rs : List Regex) : Regex :=
  alternateIn (rs.foldl (fun n r => n + r.parts) 0) rs

end Regex

end FrontLint.Pattern
