/-
  FrontLint.Toml.Shape — fitting values to what a reader wants of them. Entries are read in the
  order of the document, and the first that does not fit is the misfit reported.

  A record is written as a table, or as an array of its fields in their order.
-/

import FrontLint.Decimal.Shortest
import FrontLint.Text.Quoted
import FrontLint.Toml.Value

namespace FrontLint.Toml

/-- Why a value does not fit. -/
inductive Misfit where
  | wrongType (found : Value) (expected : String)
  | wrongNumber (found : Int) (expected : String)
  | unknownField (name : String) (known : List String)
  | missingField (name : String)
  /-- An array that ends before the field at `index`. -/
  | tooShort (index : Nat) (record : String) (fields : Nat)
  | unknownVariant (name : String) (known : List String)
  | notNamed
  | noVariant
  | manyVariants
  /-- A variant is given by a table whose one key has something below it: entries or elements, or
  tables under a header. -/
  | variantContent
  | variantTables
  | variantType (found : Value)

/-- How a misfit names the value that it met. -/
def Value.found : Value → String
  | .string s => "string " ++ String.ofList (Text.quoted s.toList)
  | .integer n => "integer `" ++ toString n ++ "`"
  | .float x => "floating point `" ++ Decimal.ofFloat x ++ "`"
  | .boolean b => "boolean `" ++ (if b then "true" else "false") ++ "`"
  | .datetime _ => "map"
  | .array _ => "sequence"
  | .table _ => "map"
  | .tables _ => "sequence"

def Value.typeName : Value → String
  | .string _ => "string"
  | .integer _ => "integer"
  | .float _ => "float"
  | .boolean _ => "boolean"
  | .datetime _ => "datetime"
  | .array _ => "array"
  | .table _ => "inline table"
  | .tables _ => "array of tables"

/-- The entries of a table. A moment counts as a table with a single reserved key. -/
def Value.entries? : Value → Option Table
  | .table entries => some entries
  | .datetime text => some [("$__toml_private_datetime", .string text)]
  | _ => none

namespace Misfit

def code (name : String) : String := "`" ++ name ++ "`"

def oneOf : List String → String
  | [a] => code a
  | [a, b] => code a ++ " or " ++ code b
  | names => "one of " ++ ", ".intercalate (names.map code)

def message : Misfit → String
  | wrongType found expected => "invalid type: " ++ found.found ++ ", expected " ++ expected
  | wrongNumber n expected =>
    "invalid value: " ++ (Value.integer n).found ++ ", expected " ++ expected
  | unknownField name known => "unknown field " ++ code name ++ ", expected " ++ oneOf known
  | missingField name => "missing field " ++ code name
  | tooShort index record fields =>
    "invalid length " ++ toString index ++ ", expected struct " ++ record ++ " with " ++
      toString fields ++ " elements"
  | unknownVariant name known => "unknown variant " ++ code name ++ ", expected " ++ oneOf known
  | notNamed => "wanted string or table"
  | noVariant => "wanted exactly 1 element, found 0 elements"
  | manyVariants => "wanted exactly 1 element, more than 1 element"
  | variantContent => "expected empty table"
  | variantTables => "expected empty array"
  | variantType found => "expected table, found " ++ found.typeName

end Misfit

/-- What a reader makes of a value. -/
abbrev Shape (α : Type) := Value → Except Misfit α

namespace Shape

variable {α σ : Type}

/-- A string, which the misfit calls by what it is for. -/
def stringFor (expected : String) : Shape String
  | .string s => .ok s
  | v => .error (.wrongType v expected)

def string : Shape String := stringFor "a string"

def boolean : Shape Bool
  | .boolean b => .ok b
  | v => .error (.wrongType v "a boolean")

/-- A count that is not negative. -/
def count : Shape Nat
  | .integer n => if 0 ≤ n then .ok n.toNat else .error (.wrongNumber n "usize")
  | v => .error (.wrongType v "usize")

def list (item : Shape α) : Shape (List α) := fun v =>
  match v.elements? with
  | some elements => elements.mapM item
  | none => .error (.wrongType v "a sequence")

/-- Keys of the reader's choice, each with a value of one shape. -/
def dictionary (item : Shape α) : Shape (List (String × α)) := fun v =>
  match v.entries? with
  | some entries => entries.mapM fun (key, x) => return (key, ← item x)
  | none => .error (.wrongType v "a map")

def variant (known : List (String × α)) (name : String) : Except Misfit α :=
  match known.lookup name with
  | some a => .ok a
  | none => .error (.unknownVariant name (known.map (·.1)))

/-- One of a fixed list of names, written as a string, or as the only key of a table with nothing
below it. -/
def named (known : List (String × α)) : Shape α
  | .string name => variant known name
  | .table [] => .error .noVariant
  | .table [(name, body)] => do
    let a ← variant known name
    match body with
    | .table [] | .array [] | .tables [] => return a
    | .table _ | .array _ => throw .variantContent
    | .tables _ => throw .variantTables
    | v => throw (.variantType v)
  | .table _ => .error .manyVariants
  | _ => .error .notNamed

/-- How a record is read: its fields in order, and what each contributes to what is known so far. A
field that `field` does not know gives `none`. -/
structure Fields (σ : Type) where
  record : String
  names : List String
  field : σ → String → Option (Shape σ)
  /-- Whether an unknown key is a misfit, or passed over. -/
  strict : Bool

namespace Fields

def read (f : Fields σ) (s : σ) (entries : Table) : Except Misfit σ :=
  entries.foldlM (fun s (key, v) =>
    match f.field s key with
    | some shape => shape v
    | none => if f.strict then .error (.unknownField key f.names) else .ok s) s

/-- The fields of a record, and whether they were given by place. -/
def ofValue (f : Fields σ) (init : σ) : Shape (σ × Bool) := fun v =>
  match v.entries?, v.elements? with
  | some entries, _ => return (← f.read init entries, false)
  | none, some elements => return (← f.read init (f.names.zip elements), true)
  | none, none => .error (.wrongType v ("struct " ++ f.record))

/-- The misfit of a required field that is not there. -/
def absent (f : Fields σ) (byPlace : Bool) (name : String) : Misfit :=
  if byPlace then .tooShort (f.names.idxOf name) f.record f.names.length
  else .missingField name

/-- A required field. -/
def require (f : Fields σ) (byPlace : Bool) (name : String) : Option α → Except Misfit α
  | some a => .ok a
  | none => .error (f.absent byPlace name)

end Fields

end Shape

end FrontLint.Toml
