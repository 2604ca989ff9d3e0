/-
  FrontLint.Strip.Markup — comments of markup lines: from `<!--` through the first `-->` after it.
  Nothing hides a comment opener.
-/

import FrontLint.Text.Basic
import FrontLint.Strip.State

namespace FrontLint.Strip

/-- Strips the rest of a markup line. `back` is the cleaned text so far, backwards. -/
def markupFrom : Bool → Text → Text → Text × State
  | inComment, back, [] => (back.reverse, ⟨inComment, false⟩)
  | true, back, '-' :: '-' :: '>' :: rest => markupFrom false (Text.spaces 3 ++ back) rest
  | true, back, c :: rest => markupFrom true (Text.blank c ++ back) rest
  | false, back, '<' :: '!' :: '-' :: '-' :: rest => markupFrom true (Text.spaces 4 ++ back) rest
  | false, back, c :: rest => markupFrom false (c :: back) rest

/-- A markup line with its comments blanked, and what it leaves open. -/
def markup (line : Text) (s : State) : Text × State := markupFrom s.inComment [] line

end FrontLint.Strip
