/-
  FrontLint.Pattern.Accepted — which texts are patterns. A text is read as a regular expression,
  and this is accepted if its automata are small enough or it is searched for without them.
-/

import FrontLint.Pattern.Grammar
import FrontLint.Pattern.Direct

namespace FrontLint.Pattern

/-- Why a text is no pattern. -/
inductive Fault where
  | malformed
  | tooLarge
  deriving DecidableEq, Repr

def Fault.message : Fault → String
  | malformed => "regex parse error:"
  | tooLarge => "Compiled regex exceeds size limit of " ++ toString sizeLimit ++ " bytes."

/-- The expression to search for. One that is searched for by a list of texts, and would be too
large otherwise, stands for these texts. -/
def Regex.ofText (t : Text) : Except Fault Regex :=
  match Regex.parse? t with
  | none => .error .malformed
  | some r =>
    if r.fits then .ok r
    else
      match r.texts? with
      | some ts => .ok (.inOrder (ts.map .text))
      | none => .error .tooLarge

end FrontLint.Pattern
