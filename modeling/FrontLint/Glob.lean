/-
  FrontLint.Glob — patterns for whole paths. `?` is any one character, `*` any run of characters,
  slashes included, and `[…]` or `[!…]` one character in or out of a class. `**` stands alone
  between slashes and takes the slash after it: it is any number of whole components, or, at the end
  of the pattern, everything.

  In a class the first character is always a member, so `[]]` is the class of `]`; `a-z` is a range.
-/

import FrontLint.Text.Basic

namespace FrontLint

namespace Glob

inductive Token where
  | char (c : Char)
  | any
  | oneOf (negated : Bool) (members : List (Char × Char))
  | run
  | deep
  deriving DecidableEq, Repr

/-- What makes a pattern unreadable. -/
inductive Fault where
  | tooManyStars
  | deepNotAlone
  | unclosedClass
  deriving DecidableEq, Repr

def Fault.message : Fault → String
  | .tooManyStars => "wildcards are either regular `*` or recursive `**`"
  | .deepNotAlone => "recursive wildcards must form a single path component"
  | .unclosedClass => "invalid range pattern"

/-- The members of a class: ranges, and characters as ranges of one. -/
def members : Text → List (Char × Char)
  | lo :: '-' :: hi :: rest => (lo, hi) :: members rest
  | c :: rest => (c, c) :: members rest
  | [] => []

/-- The class after its `[`, given whether it is negated, its first member and what follows. -/
def classToken (negated : Bool) (first : Char) (rest : Text) : Token :=
  .oneOf negated (members (first :: rest.takeWhile (· ≠ ']')))

/-- Reads the tokens of a pattern; `fresh` says that a component starts here. -/
def readTokens (fresh : Bool) (t : Text) : Except Fault (List Token) :=
  match t with
  | [] => .ok []
  | '*' :: '*' :: '*' :: _ => .error .tooManyStars
  | '*' :: '*' :: rest =>
    if fresh then
      match rest with
      | [] => .ok [.deep]
      | '/' :: rest => (readTokens true rest).map (.deep :: ·)
      | _ => .error .deepNotAlone
    else .error .deepNotAlone
  | '*' :: rest => (readTokens false rest).map (.run :: ·)
  | '?' :: rest => (readTokens false rest).map (.any :: ·)
  | '[' :: '!' :: first :: rest =>
    if ']' ∈ rest then
      (readTokens false ((rest.dropWhile (· ≠ ']')).drop 1)).map (classToken true first rest :: ·)
    else .error .unclosedClass
  | '[' :: first :: rest =>
    if first ≠ '!' ∧ ']' ∈ rest then
      (readTokens false ((rest.dropWhile (· ≠ ']')).drop 1)).map (classToken false first rest :: ·)
    else .error .unclosedClass
  | '[' :: _ => .error .unclosedClass
  | c :: rest => (readTokens (c = '/') rest).map (.char c :: ·)
termination_by t.length
decreasing_by
  all_goals simp only [List.length_cons, List.length_drop]
  all_goals try have := (List.dropWhile_sublist (fun x => decide (x ≠ ']')) (l := rest)).length_le
  all_goals omega

/-! ## Matching -/

/-- A text and all its ends, down to the empty one. -/
def ends : Text → List Text
  | [] => [[]]
  | c :: t => (c :: t) :: ends t

/-- What is left of a text after each slash in it, and the empty rest. -/
def afterSlashes : Text → List Text
  | [] => [[]]
  | c :: t => if c = '/' then t :: afterSlashes t else afterSlashes t

def Token.accepts (tok : Token) (c : Char) : Bool :=
  match tok with
  | .char d => c == d
  | .any => true
  | .oneOf negated members => members.any (fun (lo, hi) => lo ≤ c && c ≤ hi) != negated
  | .run | .deep => false

/-- The longest of some ends of one text. -/
def longest : List Text → Text
  | [] => []
  | t :: ts =>
    let rest := longest ts
    if rest.length ≤ t.length then t else rest

/-- All ends of a text that a token may leave, when `rests` are the ends left before it. -/
def Token.advance (tok : Token) (rests : List Text) : List Text :=
  match tok, rests with
  | _, [] => []
  | .run, rests => ends (longest rests)
  | .deep, rests => rests ++ afterSlashes (longest rests)
  | tok, rests => rests.filterMap fun
    | [] => none
    | c :: t => if tok.accepts c then some t else none

end Glob

structure Glob where
  tokens : List Glob.Token
  deriving DecidableEq, Repr

namespace Glob

def ofString? (s : String) : Except Fault Glob := (readTokens true s.toList).map (⟨·⟩)

/-- Whether the pattern covers the whole text. -/
def covers (g : Glob) (t : Text) : Bool :=
  (g.tokens.foldl (fun rests tok => tok.advance rests) [t]).any (·.isEmpty)

end Glob

end FrontLint
