/-
  FrontLint.Command.Arguments — the command line: a command with its options and operands, in any
  order. An option's value stands behind it or, after `=` or a short name, with it. No option is
  given twice, and after `--` all is operand.
-/

import FrontLint.Path
import FrontLint.Rule.Attributes

namespace FrontLint

/-- The form of a printed report. -/
inductive Format where
  | text
  | json
  | ndjson
  deriving DecidableEq, Repr

structure CheckOptions where
  path : Path
  format : Format
  output : Option Path
  catalog : Option Path
  concurrency : Option Nat
  failOnWarnings : Bool
  severity : Option String
  noColor : Bool
  deriving DecidableEq, Repr

inductive Command where
  | check (o : CheckOptions)
  | rules (category : Option Category) (catalog : Option Path)
  | explain (id : String) (catalog : Option Path)
  deriving DecidableEq, Repr

/-- What a command line asks for. -/
inductive Request where
  | command (c : Command)
  | version
  | help
  /-- A command line that cannot be understood. -/
  | refuse
  deriving DecidableEq, Repr

namespace Arguments

/-! ## Words -/

inductive Word where
  | terminator
  | operand
  /-- An option with the value that is written with it. -/
  | option (name : String) (attached : Option String)
  deriving DecidableEq, Repr

def dropEquals : Text → Text
  | '=' :: t => t
  | t => t

def word (arg : String) : Word :=
  match arg.toList with
  | ['-', '-'] => .terminator
  | '-' :: '-' :: body =>
    let name := String.ofList ('-' :: '-' :: body.takeWhile (· ≠ '='))
    match body.dropWhile (· ≠ '=') with
    | _ :: value => .option name (some (String.ofList value))
    | [] => .option name none
  | ['-'] => .operand
  | ['-', c] => .option (String.ofList ['-', c]) none
  | '-' :: c :: value =>
    .option (String.ofList ['-', c]) (some (String.ofList (dropEquals value)))
  | _ => .operand

/-- A name of one letter, to which more may be joined. -/
def isLetter (name : String) : Bool := name.length = 2

/-! ## Reading -/

/-- An option: its names, and, if it takes a value, which values it accepts. -/
structure Switch where
  names : List String
  value : Option (String → Bool)

/-- What a command takes. -/
structure Grammar where
  switches : List Switch
  operands : Nat
  acceptsOperand : String → Bool
  /-- Names that end the reading with an answer. -/
  answers : List (String × Request)

/-- Options by their first names, in the order given, and operands. -/
structure Given where
  options : List (String × String)
  operands : List String

def Given.none : Given := ⟨[], []⟩

def Given.value? (g : Given) (name : String) : Option String := g.options.lookup name

def Given.has (g : Given) (name : String) : Bool := (g.value? name).isSome

namespace Grammar

def find? (gr : Grammar) (name : String) : Option Switch :=
  gr.switches.find? (·.names.contains name)

def addOption (g : Given) (s : Switch) (value : String) : Except Request Given :=
  let name := s.names.headD ""
  if g.has name then .error .refuse else .ok { g with options := g.options ++ [(name, value)] }

def addOperand (gr : Grammar) (g : Given) (operand : String) : Except Request Given :=
  if g.operands.length < gr.operands ∧ gr.acceptsOperand operand then
    .ok { g with operands := g.operands ++ [operand] }
  else .error .refuse

/-- Reads options and operands. With `leading`, reading ends at the first operand, which stays with
all that follows it. -/
def read (gr : Grammar) (leading : Bool) (g : Given) : List String → Except Request Given
  | [] => .ok g
  | arg :: rest =>
    match word arg with
    | .terminator => if leading then .error .refuse else rest.foldlM gr.addOperand g
    | .operand =>
      if leading then .ok { g with operands := arg :: rest }
      else do read gr leading (← gr.addOperand g arg) rest
    | .option name attached =>
      match gr.answers.lookup name, gr.find? name, attached with
      | some answer, _, none => .error answer
      | some answer, _, some _ => .error (if isLetter name then answer else .refuse)
      | none, some ⟨names, none⟩, none => do
        read gr leading (← addOption g ⟨names, none⟩ "") rest
      | none, some ⟨names, some ok⟩, some value => do
        if !ok value then throw .refuse
        read gr leading (← addOption g ⟨names, some ok⟩ value) rest
      | none, some ⟨names, some ok⟩, none =>
        match rest with
        | value :: rest => do
          if word value ≠ .operand ∨ !ok value then throw .refuse
          read gr leading (← addOption g ⟨names, some ok⟩ value) rest
        | [] => .error .refuse
      | _, _, _ => .error .refuse

end Grammar

/-! ## The commands -/

def formats : List (String × Format) := [("text", .text), ("json", .json), ("ndjson", .ndjson)]

def categories : List (String × Category) :=
  [.security, .lint, .a11y].map fun c => (c.name, c)

def logLevels : List String := ["trace", "debug", "info", "warn", "error"]

def nonEmpty (s : String) : Bool := s ≠ ""

/-- A decimal number of 64 bits, with or without a plus sign. -/
def number? (s : String) : Option Nat :=
  let digits := match s.toList with
    | '+' :: ds => ds
    | ds => ds
  if digits.isEmpty || !digits.all Char.isDigit then none
  else
    let n := digits.foldl (fun n d => 10 * n + (d.toNat - '0'.toNat)) 0
    if n < 0x10000000000000000 then some n else none

/-- The options that every command takes. -/
def commonSwitches : List Switch :=
  [⟨["--log-level"], some logLevels.contains⟩, ⟨["--log-json"], none⟩]

def help : List (String × Request) := [("--help", .help), ("-h", .help)]

def leadGrammar : Grammar where
  switches := commonSwitches
  operands := 0
  acceptsOperand := fun _ => false
  answers := [("--version", .version), ("-V", .version)] ++ help

def checkGrammar : Grammar where
  switches := [
    ⟨["--format", "-f"], some fun v => (formats.lookup v).isSome⟩,
    ⟨["--output", "-o"], some nonEmpty⟩,
    ⟨["--catalog"], some nonEmpty⟩,
    ⟨["--concurrency", "-j"], some fun v => (number? v).isSome⟩,
    ⟨["--fail-on-warnings"], none⟩,
    ⟨["--severity"], some fun _ => true⟩,
    ⟨["--no-color"], none⟩] ++ commonSwitches
  operands := 1
  acceptsOperand := nonEmpty
  answers := help

def rulesGrammar : Grammar where
  switches := [
    ⟨["--category"], some fun v => (categories.lookup v).isSome⟩,
    ⟨["--catalog"], some nonEmpty⟩] ++ commonSwitches
  operands := 0
  acceptsOperand := fun _ => false
  answers := help

def explainGrammar : Grammar where
  switches := ⟨["--catalog"], some nonEmpty⟩ :: commonSwitches
  operands := 1
  acceptsOperand := fun _ => true
  answers := help

def Given.path? (g : Given) (name : String) : Option Path := (g.value? name).map Path.ofString

def checkCommand (g : Given) : Command :=
  .check {
    path := .ofString (g.operands.headD ".")
    format := ((g.value? "--format").bind (formats.lookup ·)).getD .text
    output := g.path? "--output"
    catalog := g.path? "--catalog"
    concurrency := (g.value? "--concurrency").bind number?
    failOnWarnings := g.has "--fail-on-warnings"
    severity := g.value? "--severity"
    noColor := g.has "--no-color" }

def rulesCommand (g : Given) : Command :=
  .rules ((g.value? "--category").bind (categories.lookup ·)) (g.path? "--catalog")

/-- What help may be asked for: all of it, or one command by name. -/
def helpTopics : List (List String) := [[], ["check"], ["rules"], ["explain"], ["help"]]

def requestOf (name : String) (args : List String) : Except Request Request :=
  match name with
  | "check" => do return .command (checkCommand (← checkGrammar.read false .none args))
  | "rules" => do return .command (rulesCommand (← rulesGrammar.read false .none args))
  | "explain" => do
    let g ← explainGrammar.read false .none args
    match g.operands with
    | id :: _ => return .command (.explain id (g.path? "--catalog"))
    | [] => throw .refuse
  | "help" => if helpTopics.contains args then .ok .help else .error .refuse
  | _ => .error .refuse

/-- What a command line asks for. -/
def parse (args : List String) : Request :=
  let request : Except Request Request := do
    match (← leadGrammar.read true .none args).operands with
    | name :: rest => requestOf name rest
    | [] => throw .refuse
  match request with
  | .ok r => r
  | .error r => r

end Arguments

end FrontLint
