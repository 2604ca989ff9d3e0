/-
  FrontLint.Rule.Basic — a rule: a pattern, where it applies, what it says about a match, and
  perhaps a validator with a veto on single matches.
-/

import FrontLint.Pattern.Match
import FrontLint.Rule.Attributes
import FrontLint.Validator

namespace FrontLint

/-- How a rule reads a file. -/
inductive RuleKind where
  /-- Line by line; without `repeated`, only the first match of a line counts. -/
  | line (repeated : Bool)
  /-- Over the whole text; a match that holds the companion pattern is safe. -/
  | multiline (companion : Option Pattern)

structure Rule where
  id : String
  pattern : Pattern
  scope : Scope
  severity : Severity
  category : Category
  suggestion : String
  kind : RuleKind
  validator : Option Validator

namespace Rule

/-- A line rule for all passes, with a warning for every match. -/
def ofLine (id : String) (pattern : Pattern) : Rule :=
  { id, pattern, scope := .all, severity := .warning, category := .lint, suggestion := ""
    kind := .line true, validator := none }

/-- A rule over lines for markup, with a warning for every match. -/
def ofSpan (id : String) (pattern : Pattern) (companion : Option Pattern) : Rule :=
  { id, pattern, scope := .markup, severity := .warning, category := .lint, suggestion := ""
    kind := .multiline companion, validator := none }

def isMultiline (r : Rule) : Bool :=
  match r.kind with
  | .line _ => false
  | .multiline _ => true

/-- Whether every match of a line counts. -/
def repeats (r : Rule) : Bool :=
  match r.kind with
  | .line repeated => repeated
  | .multiline _ => false

def companion? (r : Rule) : Option Pattern :=
  match r.kind with
  | .line _ => none
  | .multiline companion => companion

/-- A line rule that reports the first match of a line only. -/
def single (r : Rule) : Rule :=
  match r.kind with
  | .line _ => { r with kind := .line false }
  | .multiline _ => r

/-- Whether a match counts. -/
def accepts (r : Rule) (matched : Text) (context : MatchContext) : Bool :=
  match r.validator with
  | none => true
  | some v => v.accepts matched context

end Rule

end FrontLint
