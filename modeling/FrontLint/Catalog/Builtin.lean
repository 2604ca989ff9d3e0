/-
  FrontLint.Catalog.Builtin — the rules that are there without a catalog of the user's.
-/

import FrontLint.Catalog.Entry

namespace FrontLint.Catalog

/-- A line rule that counts every match. -/
def lineEntry (id pattern : String) (scope : Scope) (severity : Severity) (category : Category)
    (suggestion : String) : Entry :=
  { id, pattern, scope, severity, suggestion, category, repeated := true, multiline := false
    companion := none, validator := none, skipIn := [] }

def securityEntries : List Entry := [
  lineEntry "no-inner-html"
      "\\.(?:inner|outer)HTML\\s*\\+?=(?:[^=]|$)"
      .script .error .security
      "Assign textContent, or sanitize the HTML before inserting it",
  { lineEntry "no-eval"
      "\\beval\\s*\\([^)]*\\)?"
      .script .error .security
      "Avoid eval with dynamic input; parse data with JSON.parse instead" with
    validator := some "non-literal-argument" },
  lineEntry "no-new-function"
      "\\bnew\\s+Function\\s*\\("
      .script .error .security
      "Constructing functions from strings is equivalent to eval",
  lineEntry "no-document-write"
      "\\bdocument\\.write(?:ln)?\\s*\\("
      .script .warning .security
      "Build DOM nodes instead of writing raw markup",
  { lineEntry "no-private-env-in-client"
      "\\$env/(?:static|dynamic)/private"
      .script .error .security
      "Private environment variables may only be imported from server-only modules" with
    skipIn := [.serverOnly] },
  lineEntry "no-sql-template"
      "\\b(?:query|execute|raw)\\s*\\(\\s*`[^`]*\\$\\\x7b"
      .serverOnly .error .security
      "Use parameterized queries instead of interpolating values into SQL",
  { lineEntry "insecure-http-url"
      "[\"'`]http://[^\"'`\\s]+"
      .all .warning .security
      "Use https:// for remote resources" with
    validator := some "not-localhost-url" },
  lineEntry "csp-unsafe-directive"
      "['\"]unsafe-(?:inline|eval)['\"]"
      .config .warning .security
      "Remove unsafe-inline / unsafe-eval from the content security policy",
  lineEntry "no-raw-html"
      "\\\x7b@html\\s"
      .markup .warning .security
      "Raw HTML bypasses escaping; sanitize the value first",
  { lineEntry "target-blank-noopener"
      "<a\\b[^>]*\\btarget\\s*=\\s*[\"']?_blank\\b[^>]*>"
      .markup .warning .security
      "Add rel=\"noopener noreferrer\" to links that open a new tab" with
    multiline := true
    companion := some "\\brel\\s*=\\s*[\"'][^\"']*\\bno(?:opener|referrer)\\b" }]

def lintEntries : List Entry := [
  { lineEntry "no-debugger"
      "\\bdebugger\\b"
      .script .warning .lint
      "Remove debugger statements before committing" with
    repeated := false },
  { lineEntry "no-console"
      "\\bconsole\\.(?:log|debug|trace)\\s*\\("
      .script .info .lint
      "Remove console calls or use a logger" with
    skipIn := [.test] },
  lineEntry "no-var"
      "\\bvar\\s+[A-Za-z_$]"
      .script .info .lint
      "Use let or const",
  lineEntry "no-important"
      "!important\\b"
      .style .info .lint
      "Increase selector specificity instead of using !important"]

def a11yEntries : List Entry := [
  { lineEntry "img-alt"
      "<img\\b[^>]*>"
      .markup .warning .a11y
      "Images need an alt attribute (alt=\"\" for decorative images)" with
    multiline := true
    companion := some "\\balt\\s*=" },
  lineEntry "positive-tabindex"
      "\\btabindex\\s*=\\s*[\"'\x7b]?\\s*[1-9]"
      .markup .warning .a11y
      "Avoid positive tabindex values; they break natural focus order",
  lineEntry "no-autofocus"
      "\\sautofocus\\b"
      .markup .info .a11y
      "Autofocus can disorient screen reader users"]

def builtinEntries : List Entry := securityEntries ++ lintEntries ++ a11yEntries

/-- The table of the built-in rules. -/
def builtin : Except EntryError RuleTable := build Validator.builtin builtinEntries

end FrontLint.Catalog
