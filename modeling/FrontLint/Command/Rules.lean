/-
  FrontLint.Command.Rules — listing the rules of the catalog, and explaining one of them. Both tell
  what the settings for the working directory make of a rule.
-/

import FrontLint.Command.Setup
import FrontLint.Report.Plain

namespace FrontLint

namespace RuleTable

/-- Fills a text up with spaces to a width in characters. -/
def padded (width : Nat) (t : Text) : Text := t ++ Text.spaces (width - t.length)

/-- A row of the list. A rule that the settings leave out keeps its own severity. -/
def row (active : RuleTable) (color : Bool) (width : Nat) (r : Rule) : Text :=
  let (severity, status) := match active.get? r.id with
    | some effective => (effective.severity, [])
    | none => (r.severity, ' ' :: Paint.dimmed.apply color "(disabled)".toList)
  Paint.bold.apply color (padded width r.id.toList) ++ "  ".toList ++
    padded 8 r.category.name.toList ++ "  ".toList ++ padded 8 severity.name.toList ++
    "  ".toList ++ r.scope.name.toList ++ status ++ ['\n']

/-- One row for each rule, of one category or of all, and their number. Ids are padded to the width
of the longest in bytes. -/
def listing (t active : RuleTable) (color : Bool) (category : Option Category) : Text :=
  let rules := t.rules.filter fun r => category.all (· = r.category)
  let width := (rules.map fun r => Text.width r.id.toList).foldl max 0
  rules.flatMap (active.row color width) ++ '\n' :: Text.decimal rules.length ++
    " rule(s)\n".toList

/-- A labelled line. -/
def entry (color : Bool) (label : String) (value : Text) : Text :=
  "  ".toList ++ Paint.cyan.apply color label.toList ++ [':', ' '] ++ value

def kindLines (color : Bool) : RuleKind → List Text
  | .line repeated =>
    let which := if repeated then "every match" else "first match"
    [entry color "Kind" ("line (" ++ which ++ " per line)").toList]
  | .multiline none => [entry color "Kind" "multi-line".toList]
  | .multiline (some companion) =>
    [entry color "Kind" "multi-line".toList,
      entry color "Safe when containing" companion.source.toList]

/-- All that is known of a rule. -/
def description (t active : RuleTable) (color : Bool) (r : Rule) : Text :=
  let effective := active.get? r.id
  let severity := (effective.map (·.severity)).getD r.severity
  let tags := (t.exclusions.tags r.id).map (·.name)
  let status := if effective.isSome then Paint.green.apply color "enabled".toList
    else Paint.red.apply color "disabled".toList
  Text.unlines (
    [[], Paint.bold.apply color ("Rule ".toList ++ r.id.toList), [],
      entry color "Category" r.category.name.toList,
      entry color "Severity" (severity.paint.apply color severity.name.toList),
      entry color "Scope" r.scope.name.toList,
      entry color "Pattern" r.pattern.source.toList] ++
    kindLines color r.kind ++
    (if r.validator.isSome then [entry color "Validated" "yes".toList] else []) ++
    (if tags.isEmpty then [] else [entry color "Skipped in" (", ".intercalate tags).toList]) ++
    (if r.suggestion = "" then [] else [[], entry color "Suggestion" r.suggestion.toList]) ++
    [[], entry color "Status" status, []])

/-- What is said when there is no rule of that id. -/
def unknownRule (t : RuleTable) (color : Bool) (id : String) : Text :=
  Paint.red.inBold.apply color "error:".toList ++ " Unknown rule '".toList ++ id.toList ++
    "'\n\nAvailable rules:\n".toList ++
    t.rules.flatMap fun r =>
      "  ".toList ++ r.id.toList ++ " (".toList ++ r.category.name.toList ++ ")\n".toList

end RuleTable

namespace Command

/-- Runs `f` on the table and on the table as configured for the working directory. -/
def withTables (env : Environment) (catalog : Option Path)
    (f : Text → RuleTable → RuleTable → Outcome) : Outcome :=
  match Settings.loadFor env.files env.files.cwdPath with
  | .error e => .failed [] e
  | .ok loaded =>
    let stderr := loaded.warningText env.color
    match Catalog.tableFor env.files loaded.settings catalog with
    | .error e => .failed stderr e
    | .ok table => f stderr table (table.configured loaded.settings.rules)

def runRules (env : Environment) (category : Option Category) (catalog : Option Path) : Outcome :=
  withTables env catalog fun stderr table active =>
    .printed (table.listing active env.color category) stderr

def runExplain (env : Environment) (id : String) (catalog : Option Path) : Outcome :=
  withTables env catalog fun stderr table active =>
    match table.get? id with
    | some r => .printed (table.description active env.color r) stderr
    | none => ⟨1, [], stderr ++ table.unknownRule env.color id, none⟩

end Command

end FrontLint
