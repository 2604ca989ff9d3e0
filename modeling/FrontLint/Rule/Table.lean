/-
  FrontLint.Rule.Table — the rules of a run, in order, with the classes of files that each is
  excluded from. Ids are distinct in a table made by `ofRules`.
-/

import FrontLint.Exclusions
import FrontLint.Rule.Basic

namespace FrontLint

structure RuleTable where
  rules : List Rule
  exclusions : Exclusions

/-- What a user sets about rules. An unset category is on. -/
structure RuleSettings where
  disabled : List String
  severity : List (String × Severity)
  security : Option Bool
  lint : Option Bool
  a11y : Option Bool
  deriving DecidableEq, Repr

namespace RuleSettings

def unset : RuleSettings := ⟨[], [], none, none, none⟩

def categoryOn (s : RuleSettings) : Category → Bool
  | .security => s.security.getD true
  | .lint => s.lint.getD true
  | .a11y => s.a11y.getD true

/-- Whether a rule stays in the table. -/
def keeps (s : RuleSettings) (r : Rule) : Bool :=
  !s.disabled.contains r.id && s.categoryOn r.category

def regrade (s : RuleSettings) (r : Rule) : Rule :=
  match s.severity.lookup r.id with
  | some severity => { r with severity }
  | none => r

end RuleSettings

/-- The first id that is among the ids before it. -/
def firstRepeated : List String → List String → Option String
  | _, [] => none
  | seen, id :: ids => if id ∈ seen then some id else firstRepeated (id :: seen) ids

namespace RuleTable

/-- The table of these rules; if an id repeats, that id. -/
def ofRules (rules : List Rule) (exclusions : Exclusions) : Except String RuleTable :=
  match firstRepeated [] (rules.map (·.id)) with
  | some id => .error id
  | none => .ok ⟨rules, exclusions⟩

def lineRules (t : RuleTable) : List Rule := t.rules.filter (!·.isMultiline)

def multilineRules (t : RuleTable) : List Rule := t.rules.filter (·.isMultiline)

def get? (t : RuleTable) (id : String) : Option Rule := t.rules.find? (·.id = id)

/-- Drops the rules that are switched off and sets severities anew. -/
def configured (t : RuleTable) (s : RuleSettings) : RuleTable :=
  { t with rules := (t.rules.filter s.keeps).map s.regrade }

/-- Whether a rule runs in a pass in `mode` over a file of class `c`. -/
def isActive (t : RuleTable) (mode : Mode) (c : FileClass) (r : Rule) : Bool :=
  r.scope.applies mode c && !t.exclusions.excludes r.id c

end RuleTable

end FrontLint
