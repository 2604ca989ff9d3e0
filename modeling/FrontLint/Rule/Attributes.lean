/-
  FrontLint.Rule.Attributes — how grave a finding is, what it is about, and the part of a file that
  a rule looks at.
-/

import FrontLint.FileKind
import FrontLint.Strip.State

namespace FrontLint

inductive Severity where
  | info
  | warning
  | error
  deriving DecidableEq, Repr

namespace Severity

def name : Severity → String
  | info => "info"
  | warning => "warning"
  | error => "error"

/-- Graver is larger. -/
def rank : Severity → Nat
  | info => 0
  | warning => 1
  | error => 2

/-- Whether a severity is at least the other. -/
def atLeast (s least : Severity) : Bool := least.rank ≤ s.rank

def ofName? : String → Option Severity
  | "error" => some error
  | "warning" => some warning
  | "info" => some info
  | _ => none

end Severity

inductive Category where
  | security
  | lint
  | a11y
  deriving DecidableEq, Repr

namespace Category

def name : Category → String
  | security => "security"
  | lint => "lint"
  | a11y => "a11y"

/-- The place of a category in a report. -/
def rank : Category → Nat
  | security => 0
  | lint => 1
  | a11y => 2

end Category

/-- The part of a file that a rule applies to. -/
inductive Scope where
  | script
  | markup
  | style
  | serverOnly
  | config
  | all
  deriving DecidableEq, Repr

namespace Scope

def name : Scope → String
  | script => "script"
  | markup => "markup"
  | style => "style"
  | serverOnly => "server-only"
  | config => "config"
  | all => "all"

/-- Whether a pass in `mode` over a file of class `c` falls under a scope. -/
def applies (s : Scope) (mode : Mode) (c : FileClass) : Bool :=
  match s with
  | all => true
  | script => mode = .script
  | markup => mode = .markup
  | style => mode = .style
  | serverOnly => mode = .script && c.serverOnly
  | config => c.config

end Scope

end FrontLint
