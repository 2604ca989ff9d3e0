/-
  FrontLint.Catalog.Entry — a catalog as a list of entries, and the table of rules that it stands
  for. Entries become rules in order and the first that cannot be one is the error; that an id
  repeats is noticed last.
-/

import FrontLint.Rule.Table

namespace FrontLint

namespace Catalog

/-- A rule as a catalog gives it. -/
structure Entry where
  id : String
  pattern : String
  scope : Scope
  severity : Severity
  suggestion : String
  category : Category
  repeated : Bool
  multiline : Bool
  companion : Option String
  validator : Option String
  skipIn : List ClassTag
  deriving DecidableEq, Repr

/-- Why a list of entries is no table. -/
inductive EntryError where
  | invalidPattern (id : String) (fault : Pattern.Fault)
  | unknownValidator (id name : String)
  | duplicateId (id : String)
  | companionOnLineRule (id : String)
  deriving DecidableEq, Repr

namespace EntryError

def message : EntryError → String
  | invalidPattern id fault => "Rule '" ++ id ++ "' has an invalid pattern: " ++ fault.message
  | unknownValidator id name => "Rule '" ++ id ++ "' refers to unknown validator '" ++ name ++ "'"
  | duplicateId id => "Rule id '" ++ id ++ "' is defined more than once"
  | companionOnLineRule id =>
    "Rule '" ++ id ++ "' sets a companion pattern but is not multiline"

end EntryError

/-- Reads a pattern of the rule `id`. -/
def compile (id source : String) : Except EntryError Pattern :=
  match Pattern.ofString source with
  | .ok p => .ok p
  | .error fault => .error (.invalidPattern id fault)

namespace Entry

def kind (e : Entry) : Except EntryError RuleKind :=
  match e.multiline, e.companion with
  | true, none => .ok (.multiline none)
  | true, some source => do return .multiline (some (← compile e.id source))
  | false, none => .ok (.line e.repeated)
  | false, some _ => .error (.companionOnLineRule e.id)

def namedValidator (validators : Validator.Registry) (e : Entry) :
    Except EntryError (Option Validator) :=
  match e.validator with
  | none => .ok none
  | some name =>
    match validators name with
    | some v => .ok (some v)
    | none => .error (.unknownValidator e.id name)

/-- The pattern is checked first, then the companion, then the validator. -/
def toRule (validators : Validator.Registry) (e : Entry) : Except EntryError Rule := do
  let pattern ← compile e.id e.pattern
  let kind ← e.kind
  let validator ← e.namedValidator validators
  return { id := e.id, pattern, scope := e.scope, severity := e.severity, category := e.category
           suggestion := e.suggestion, kind, validator }

end Entry

def exclusions (entries : List Entry) : Exclusions :=
  entries.foldl (fun x e => x.insertAll e.id e.skipIn) .none

/-- The table of a list of entries. -/
def build (validators : Validator.Registry) (entries : List Entry) :
    Except EntryError RuleTable := do
  let rules ← entries.mapM (·.toRule validators)
  match RuleTable.ofRules rules (exclusions entries) with
  | .ok table => return table
  | .error id => throw (.duplicateId id)

end Catalog

end FrontLint
