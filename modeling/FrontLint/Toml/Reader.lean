/-
  FrontLint.Toml.Reader — the written form of a settings document: lines of keys with values, table
  headers, comments. Arrays and inline tables nest to a limited depth, and so do dotted keys.
-/

import FrontLint.Parse
import FrontLint.Text.Hex
import FrontLint.Toml.Document

namespace FrontLint.Toml

open Parse

/-- Arrays, inline tables and dotted keys go less deep than this. -/
def depthLimit : Nat := 80

/-! ## Blanks and comments -/

def isGap (c : Char) : Bool := c == ' ' || c == '\t'

/-- A character that may stand in a comment or a string: the tab, and all but the controls. -/
def isPlain (c : Char) : Bool := c == '\t' || (0x20 ≤ c.toNat && c.toNat != 0x7F)

def gap : Parse Unit := do let _ ← takeWhile isGap

def newline : Parse Unit := sym '\n' <|> literal "\r\n"

def comment : Parse Unit := do
  sym '#'
  let _ ← takeWhile isPlain

/-- Blanks, newlines and comments, as between the elements of an array. -/
def spacing : Parse Unit := do
  let _ ← many ((do let _ ← takeWhile1 isGap) <|> newline <|> comment)

/-! ## Strings -/

/-- What follows a backslash in a quoted string. -/
def escape : Parse Text := do
  match ← anyChar with
  | 'b' => return ['\x08']
  | 't' => return ['\t']
  | 'n' => return ['\n']
  | 'f' => return ['\x0C']
  | 'r' => return ['\r']
  | '"' => return ['"']
  | '\\' => return ['\\']
  | 'u' => return [← Text.scalar? (← takeN 4)]
  | 'U' => return [← Text.scalar? (← takeN 8)]
  | _ => failure

def isQuotedChar (c : Char) : Bool := isPlain c && c != '"' && c != '\\'

def isLiteralChar (c : Char) : Bool := isPlain c && c != '\''

def basicString : Parse Text := do
  sym '"'
  let parts ← many (takeWhile1 isQuotedChar <|> (do sym '\\'; escape))
  sym '"'
  return parts.flatten

def literalString : Parse Text := do
  sym '\''
  let body ← takeWhile isLiteralChar
  sym '\''
  return body

/-- A backslash at the end of a line takes away all blanks and newlines up to the next text. -/
def lineJoin : Parse Text := do
  gap
  newline
  let _ ← many ((do let _ ← takeWhile1 isGap) <|> newline)
  return []

/-- One or two quotes that do not end a string of several lines. -/
def innerQuotes (q : Char) : Parse Text :=
  (do sym q; sym q; notAhead (sym q); return [q, q]) <|> (do sym q; notAhead (sym q); return [q])

/-- The three quotes that end a string of several lines, after up to two that belong to it. -/
def closingQuotes (q : Char) : Parse Text := do
  sym q; sym q; sym q
  (do sym q; sym q; return [q, q]) <|> (do sym q; return [q]) <|> return []

def longBasicString : Parse Text := do
  literal "\"\"\""
  let _ ← option newline
  let parts ← many (takeWhile1 isQuotedChar <|> (do newline; return ['\n']) <|>
    (do sym '\\'; lineJoin <|> escape) <|> innerQuotes '"')
  return parts.flatten ++ (← closingQuotes '"')

def longLiteralString : Parse Text := do
  literal "\x27\x27\x27"
  let _ ← option newline
  let parts ← many (takeWhile1 isLiteralChar <|> (do newline; return ['\n']) <|> innerQuotes '\'')
  return parts.flatten ++ (← closingQuotes '\'')

def string : Parse String := do
  let t ← longBasicString <|> basicString <|> longLiteralString <|> literalString
  return String.ofList t

/-! ## Keys -/

def isBareKeyChar (c : Char) : Bool := c.isAlphanum || c == '_' || c == '-'

def simpleKey : Parse String := do
  let t ← basicString <|> literalString <|> takeWhile1 isBareKeyChar
  return String.ofList t

/-- A dotted key: the way to a table, and the key in it. -/
def key : Parse (List String × String) := do
  let keys ← sepBy1 (do gap; let k ← simpleKey; gap; return k) (sym '.')
  if keys.length < depthLimit then
    match keys.getLast? with
    | some last => return (keys.dropLast, last)
    | none => failure
  else failure

/-! ## Numbers -/

/-- Digits, with single underscores allowed between them. -/
def digitRun (isDigit : Char → Bool) : Parse Text := do
  let parts ← sepBy1 (takeWhile1 isDigit) (sym '_')
  return parts.flatten

def sign : Parse Bool := do
  let minus ← accepts (sym '-')
  if minus then return true
  let _ ← accepts (sym '+')
  return false

/-- Decimal digits without a leading zero. -/
def decimalDigits : Parse Text :=
  (do sym '0'; notAhead (satisfy Char.isDigit); return ['0']) <|>
    (do notAhead (sym '0'); digitRun Char.isDigit)

/-- Integers have 64 bits. -/
def fits (n : Int) : Bool := -0x8000000000000000 ≤ n && n < 0x8000000000000000

def checked (n : Int) : Parse Value := if fits n then return .integer n else failure

def basedInteger (mark : String) (base : Nat) : Parse Value := do
  literal mark
  let n ← Text.number? base (← digitRun fun c => (Text.hexValue? c).any (· < base))
  checked n

def decimalInteger : Parse Value := do
  let minus ← sign
  let n ← Text.number? 10 (← decimalDigits)
  checked (if minus then -(n : Int) else n)

def integer : Parse Value :=
  basedInteger "0x" 16 <|> basedInteger "0o" 8 <|> basedInteger "0b" 2 <|> decimalInteger

def exponent : Parse Int := do
  sym 'e' <|> sym 'E'
  let minus ← sign
  let n ← Text.number? 10 (← digitRun Char.isDigit)
  return if minus then -(n : Int) else n

/-- The double next to `m · 10^e`. -/
def double (m : Nat) (e : Int) : Float :=
  let magnitude := (Nat.toDigits 10 m).length + e
  if m = 0 ∨ magnitude < -400 then 0
  else if 400 < magnitude then 1 / 0
  else Float.ofScientific m (e < 0) e.natAbs

/-- A number with a fraction, an exponent or both. Too large a positive number is refused. -/
def decimalFloat : Parse Value := do
  let minus ← sign
  let whole ← decimalDigits
  let fraction ← option (do sym '.'; digitRun Char.isDigit)
  let power ← option exponent
  if fraction.isNone ∧ power.isNone then failure
  let digits := fraction.getD []
  let m ← Text.number? 10 (whole ++ digits)
  let x := double m (power.getD 0 - digits.length)
  if x.isInf ∧ !minus then failure
  return .float (if minus then -x else x)

def specialFloat : Parse Value := do
  let minus ← sign
  let x ← (do literal "inf"; return (1 / 0 : Float)) <|> (do literal "nan"; return (0 / 0 : Float))
  return .float (if minus then -x else x)

/-! ## Dates and times -/

/-- Exactly `n` decimal digits. -/
def fixedNumber (n : Nat) : Parse Nat := do
  let ds ← takeN n
  if ds.all Char.isDigit then Text.number? 10 ds else failure

def pad (n width : Nat) : String :=
  let ds := Text.decimal n
  String.ofList (List.replicate (width - ds.length) '0' ++ ds)

def daysIn (year month : Nat) : Nat :=
  if month = 2 then
    (if year % 4 = 0 ∧ (year % 100 ≠ 0 ∨ year % 400 = 0) then 29 else 28)
  else if month ∈ [4, 6, 9, 11] then 30
  else 31

def date : Parse String := do
  let year ← fixedNumber 4
  sym '-'
  let month ← fixedNumber 2
  sym '-'
  let day ← fixedNumber 2
  if 1 ≤ month ∧ month ≤ 12 ∧ 1 ≤ day ∧ day ≤ daysIn year month then
    return pad year 4 ++ "-" ++ pad month 2 ++ "-" ++ pad day 2
  else failure

/-- The digits of a fraction of a second: nine at most, without zeros at the end. -/
def secondFraction (digits : Text) : String :=
  match ((digits.take 9).reverse.dropWhile (· == '0')).reverse with
  | [] => ""
  | ds => "." ++ String.ofList ds

def time : Parse String := do
  let hour ← fixedNumber 2
  sym ':'
  let minute ← fixedNumber 2
  sym ':'
  let second ← fixedNumber 2
  let fraction ← option (do sym '.'; takeWhile1 Char.isDigit)
  if hour ≤ 23 ∧ minute ≤ 59 ∧ second ≤ 60 then
    return pad hour 2 ++ ":" ++ pad minute 2 ++ ":" ++ pad second 2 ++
      secondFraction (fraction.getD [])
  else failure

/-- The distance from universal time. None at all has a plus sign. -/
def zone : Parse String :=
  (do sym 'Z' <|> sym 'z'; return "Z") <|>
  (do
    let mark ← satisfy fun c => c == '+' || c == '-'
    let hour ← fixedNumber 2
    sym ':'
    let minute ← fixedNumber 2
    if hour ≤ 23 ∧ minute ≤ 59 then
      let mark := if hour = 0 ∧ minute = 0 then '+' else mark
      return String.ofList [mark] ++ pad hour 2 ++ ":" ++ pad minute 2
    else failure)

/-- A date with a time after `T` or a single space, and perhaps a zone. -/
def dateTime : Parse String := do
  let d ← date
  let clock ← option (do
    let _ ← satisfy fun c => c == 'T' || c == 't' || c == ' '
    let t ← time
    return "T" ++ t ++ (← option zone).getD "")
  return d ++ clock.getD ""

def moment : Parse Value := do
  let text ← dateTime <|> time
  return .datetime text

/-! ## Values -/

def boolean : Parse Value :=
  (do literal "true"; return .boolean true) <|> (do literal "false"; return .boolean false)

def scalar : Parse Value :=
  (do return .string (← string)) <|> boolean <|> moment <|> decimalFloat <|> specialFloat <|>
    integer

/-- A value with at most `depth` arrays and inline tables inside one another. -/
def value : Nat → Parse Value
  | 0 => scalar
  | depth + 1 => do
    match ← peek with
    | some '[' =>
      sym '['
      spacing
      let elements ← option (sepBy1 (value depth) (do spacing; sym ','; spacing))
      spacing
      if elements.isSome then
        let _ ← accepts (sym ',')
        spacing
      sym ']'
      return .array (elements.getD [])
    | some '{' =>
      sym '{'
      gap
      let pairs ← option (sepBy1 (do
        let (path, k) ← key
        sym '='
        gap
        let v ← value depth
        gap
        return (path, k, v)) (sym ','))
      gap
      sym '}'
      inlineTable (pairs.getD [])
    | _ => scalar

/-! ## Lines -/

def pair : Parse Statement := do
  let (path, k) ← key
  sym '='
  gap
  let v ← value (depthLimit - 1)
  return .pair path k v

def arrayHeader : Parse Statement := do
  literal "[["
  let (path, k) ← key
  literal "]]"
  return .arrayHeader path k

def header : Parse Statement := do
  notAhead (literal "[[")
  sym '['
  let (path, k) ← key
  sym ']'
  return .header path k

/-- A line, with its statement if it has one. -/
def line : Parse (Option Statement) := do
  gap
  let s ← option (arrayHeader <|> header <|> pair)
  gap
  let _ ← option comment
  return s

def statements : Parse (List Statement) := do
  let lines ← sepBy1 line newline
  return lines.filterMap id

/-- Drops a byte order mark. -/
def dropMark : Text → Text
  | '﻿' :: t => t
  | t => t

/-- The root table of a document. -/
def parse? (t : Text) : Option Table := do
  Document.ofStatements (← Parse.all statements (dropMark t))

end FrontLint.Toml
