/-
  FrontLint.Strip.State — the three languages a line may be written in, and what stays open at its
  end.
-/

namespace FrontLint

/-- Which lexical rules a line follows. -/
inductive Mode where
  | script
  | style
  | markup
  deriving DecidableEq, Repr

namespace Strip

/-- What one line leaves open for the next: a block comment, a template literal. In markup the
comment is `<!-- … -->`. -/
structure State where
  inComment : Bool
  inTemplate : Bool
  deriving DecidableEq, Repr

def State.neutral : State := ⟨false, false⟩

def State.isNeutral (s : State) : Bool := !s.inComment && !s.inTemplate

end Strip

end FrontLint
