/-
  FrontLint.Settings.Basic — what a project sets for its scans, as its settings file is written.
  Keys that mean nothing are passed over, and `warnings` names them.
-/

import FrontLint.Classifier
import FrontLint.Rule.Table
import FrontLint.Toml.Reader
import FrontLint.Toml.Shape

namespace FrontLint

structure Settings where
  included : List String
  excluded : List String
  /-- The catalog that takes the place of the built-in one. -/
  catalog : Option Path
  concurrency : Option Nat
  rules : RuleSettings
  classGlobs : ClassGlobs
  deriving DecidableEq, Repr

namespace Settings

open Toml

def unset : Settings := ⟨[], [], none, none, .unset, .unset⟩

/-- Files in flight when nothing is set. -/
def defaultConcurrency : Nat := 16

def effectiveConcurrency (s : Settings) : Nat :=
  (s.concurrency.filter (0 < ·)).getD defaultConcurrency

def severities : List (String × Severity) :=
  [.error, .warning, .info].map fun s => (s.name, s)

def rulesField (s : RuleSettings) : String → Option (Shape RuleSettings)
  | "disabled" => some fun v => return { s with disabled := ← Shape.list Shape.string v }
  | "severity" => some fun v =>
    return { s with severity := ← Shape.dictionary (Shape.named severities) v }
  | "security" => some fun v => return { s with security := ← Shape.boolean v }
  | "lint" => some fun v => return { s with lint := ← Shape.boolean v }
  | "a11y" => some fun v => return { s with a11y := ← Shape.boolean v }
  | _ => none

def rulesFields : Shape.Fields RuleSettings where
  record := "RulesConfig"
  names := ["disabled", "severity", "security", "lint", "a11y"]
  field := rulesField
  strict := false

def classField (g : ClassGlobs) : String → Option (Shape ClassGlobs)
  | "server_only" => some fun v => return { g with serverOnly := ← Shape.list Shape.string v }
  | "test" => some fun v => return { g with test := ← Shape.list Shape.string v }
  | "config" => some fun v => return { g with config := ← Shape.list Shape.string v }
  | _ => none

def classFields : Shape.Fields ClassGlobs where
  record := "ClassifyConfig"
  names := ["server_only", "test", "config"]
  field := classField
  strict := false

def field (s : Settings) : String → Option (Shape Settings)
  | "include" => some fun v => return { s with included := ← Shape.list Shape.string v }
  | "exclude" => some fun v => return { s with excluded := ← Shape.list Shape.string v }
  | "catalog" => some fun v =>
    return { s with catalog := some (.ofString (← Shape.stringFor "path string" v)) }
  | "concurrency" => some fun v => return { s with concurrency := ← Shape.count v }
  | "rules" => some fun v => return { s with rules := (← rulesFields.ofValue .unset v).1 }
  | "classify" => some fun v => return { s with classGlobs := (← classFields.ofValue .unset v).1 }
  | _ => none

def fields : Shape.Fields Settings where
  record := "Config"
  names := ["include", "exclude", "catalog", "concurrency", "rules", "classify"]
  field := field
  strict := false

/-- The settings of a document. -/
def ofTable (root : Table) : Except Misfit Settings := fields.read .unset root

/-! The keys that are not warned about are listed on their own, apart from those that are read. -/

def knownKeys : List String := ["include", "exclude", "catalog", "concurrency", "rules", "classify"]

def knownRulesKeys : List String := ["disabled", "severity", "security", "lint", "a11y"]

def knownClassifyKeys : List String := ["server_only", "test", "config"]

/-- The keys of a table that are not known, in order. -/
def strangers (known : List String) (t : Table) : List String :=
  ((t.map (·.1)).filter (!known.contains ·)).mergeSort fun a b => (compare a b).isLE

/-- The unknown keys of a section, if it is there as a table. -/
def sectionWarnings (heading : String) (known : List String) (root : Table) : List String :=
  match root.lookup heading with
  | some (.table t) =>
    (strangers known t).map fun k => "Unknown config option in [" ++ heading ++ "]: '" ++ k ++ "'"
  | _ => []

/-- A warning for each unknown key: at the top, then under `rules`, then under `classify`. -/
def warnings (root : Table) : List String :=
  (strangers knownKeys root).map (fun k => "Unknown config option: '" ++ k ++ "'") ++
    sectionWarnings "rules" knownRulesKeys root ++ sectionWarnings "classify" knownClassifyKeys root

end Settings

end FrontLint
