/-
  FrontLint.Finding — a reported match, and the candidates that become findings once the rule's
  validator has accepted them.
-/

import FrontLint.Rule.Basic

namespace FrontLint

/-- A place in a file, counted from 1, where a rule was broken. -/
structure Finding where
  file : String
  line : Nat
  column : Nat
  ruleId : String
  severity : Severity
  category : Category
  matched : Text
  deriving DecidableEq, Repr

/-- A match of a rule that its validator has not seen yet. -/
structure Candidate where
  rule : Rule
  /-- The whole match, which the validator judges. -/
  matched : Text
  /-- What the finding shows of it. -/
  shown : Text
  context : MatchContext
  column : Nat

namespace Candidate

def accepted (c : Candidate) : Bool := c.rule.accepts c.matched c.context

def finding (c : Candidate) : Finding :=
  { file := c.context.file
    line := c.context.line
    column := c.column
    ruleId := c.rule.id
    severity := c.rule.severity
    category := c.rule.category
    matched := c.shown }

/-- The findings of a list of candidates, in their order. -/
def findings (cs : List Candidate) : List Finding := (cs.filter accepted).map finding

end Candidate

end FrontLint
