/-
  FrontLint.Strip.Style — comments of style sheet lines: `/* … */` outside quoted strings. Only a
  comment stays open over the end of a line.
-/

import FrontLint.Text.Basic
import FrontLint.Strip.State

namespace FrontLint.Strip

/-- The string a style sheet character stands in, by its quote. -/
def nextQuote (c : Char) : Option Char → Option Char
  | some q => if c = q then none else some q
  | none => if c = '\'' ∨ c = '"' then some c else none

/-- Strips the rest of a style sheet line. `back` is the cleaned text so far, backwards. -/
def styleFrom : Bool → Option Char → Text → Text → Text × State
  | inComment, _, back, [] => (back.reverse, ⟨inComment, false⟩)
  | true, quote, back, '*' :: '/' :: rest => styleFrom false quote (Text.spaces 2 ++ back) rest
  | true, quote, back, c :: rest => styleFrom true quote (Text.blank c ++ back) rest
  | false, quote, back, '\\' :: c :: rest => styleFrom false quote (c :: '\\' :: back) rest
  | false, none, back, '/' :: '*' :: rest => styleFrom true none (Text.spaces 2 ++ back) rest
  | false, quote, back, c :: rest => styleFrom false (nextQuote c quote) (c :: back) rest

/-- A style sheet line with its comments blanked, and what it leaves open. -/
def style (line : Text) (s : State) : Text × State := styleFrom s.inComment none [] line

end FrontLint.Strip
