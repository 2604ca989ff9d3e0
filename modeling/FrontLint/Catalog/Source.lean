/-
  FrontLint.Catalog.Source — catalogs as they are written: a document whose array `rule` has a
  record for each rule. Unknown keys are refused.
-/

import FrontLint.Catalog.Entry
import FrontLint.Toml.Reader
import FrontLint.Toml.Shape

namespace FrontLint.Catalog

open Toml

def scopes : List (String × Scope) :=
  [.script, .markup, .style, .serverOnly, .config, .all].map fun s => (s.name, s)

def severities : List (String × Severity) :=
  [.info, .warning, .error].map fun s => (s.name, s)

def categories : List (String × Category) :=
  [.security, .lint, .a11y].map fun c => (c.name, c)

def classTags : List (String × ClassTag) :=
  [.serverOnly, .test, .config, .component].map fun t => (t.name, t)

/-- The fields of an entry that were given. -/
structure Draft where
  id : Option String
  pattern : Option String
  scope : Option Scope
  severity : Option Severity
  suggestion : Option String
  category : Option Category
  repeated : Option Bool
  multiline : Option Bool
  companion : Option String
  validator : Option String
  skipIn : Option (List ClassTag)

def Draft.empty : Draft := ⟨none, none, none, none, none, none, none, none, none, none, none⟩

def Draft.field (d : Draft) : String → Option (Shape Draft)
  | "id" => some fun v => return { d with id := ← Shape.string v }
  | "pattern" => some fun v => return { d with pattern := ← Shape.string v }
  | "scope" => some fun v => return { d with scope := ← Shape.named scopes v }
  | "severity" => some fun v => return { d with severity := ← Shape.named severities v }
  | "suggestion" => some fun v => return { d with suggestion := ← Shape.string v }
  | "category" => some fun v => return { d with category := ← Shape.named categories v }
  | "repeat" => some fun v => return { d with repeated := ← Shape.boolean v }
  | "multiline" => some fun v => return { d with multiline := ← Shape.boolean v }
  | "companion" => some fun v => return { d with companion := ← Shape.string v }
  | "validator" => some fun v => return { d with validator := ← Shape.string v }
  | "skip_in" => some fun v => return { d with skipIn := ← Shape.list (Shape.named classTags) v }
  | _ => none

def entryFields : Shape.Fields Draft where
  record := "RuleEntry"
  names := ["id", "pattern", "scope", "severity", "suggestion", "category", "repeat", "multiline",
    "companion", "validator", "skip_in"]
  field := Draft.field
  strict := true

/-- An entry needs an id, a pattern, a scope and a severity. By place it also needs all up to the
validator. -/
def entry : Shape Entry := fun v => do
  let (d, byPlace) ← entryFields.ofValue .empty v
  let id ← entryFields.require byPlace "id" d.id
  let pattern ← entryFields.require byPlace "pattern" d.pattern
  let scope ← entryFields.require byPlace "scope" d.scope
  let severity ← entryFields.require byPlace "severity" d.severity
  if byPlace then
    let _ ← entryFields.require byPlace "companion" d.companion
    let _ ← entryFields.require byPlace "validator" d.validator
  return { id, pattern, scope, severity
           suggestion := d.suggestion.getD ""
           category := d.category.getD .lint
           repeated := d.repeated.getD true
           multiline := d.multiline.getD false
           companion := d.companion
           validator := d.validator
           skipIn := d.skipIn.getD [] }

def fileFields : Shape.Fields (List Entry) where
  record := "CatalogFile"
  names := ["rule"]
  field := fun _ key => if key = "rule" then some (Shape.list entry) else none
  strict := true

/-- Why a written catalog is no table. `origin` is where it was read. -/
inductive SourceError where
  | malformed (origin : String)
  | misfit (origin : String) (m : Misfit)
  | entry (e : EntryError)

/-- The entries of a written catalog. -/
def entriesOf (origin : String) (source : Text) : Except SourceError (List Entry) :=
  match Toml.parse? source with
  | none => .error (.malformed origin)
  | some root =>
    match fileFields.read [] root with
    | .ok entries => .ok entries
    | .error m => .error (.misfit origin m)

def ofSource (validators : Validator.Registry) (origin : String) (source : Text) :
    Except SourceError RuleTable := do
  let entries ← entriesOf origin source
  match build validators entries with
  | .ok table => return table
  | .error e => throw (.entry e)

/-- What is said of a document that cannot be read at all is not settled here. -/
def SourceError.message : SourceError → String
  | .malformed origin => "Invalid TOML in rule catalog '" ++ origin ++ "': "
  | .misfit origin m => "Invalid TOML in rule catalog '" ++ origin ++ "': " ++ m.message
  | .entry e => e.message

end FrontLint.Catalog
