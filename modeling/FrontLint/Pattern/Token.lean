/-
  FrontLint.Pattern.Token — the written form of a pattern, cut into tokens: characters, classes,
  anchors, groups, flags, bars and repetitions. Of the flags only the verbose one matters here: with
  it, blanks and comments are passed over wherever a part of a token may end.
-/

import FrontLint.Parse
import FrontLint.Text.Blank
import FrontLint.Text.Hex
import FrontLint.Text.Word
import FrontLint.Pattern.CharClass

namespace FrontLint.Pattern

/-- A class with the nesting depth of its written form. -/
structure WrittenClass where
  cls : CharClass
  depth : Nat

inductive Token where
  /-- A character; a `raw` one is written by two digits and stands for a byte where flags say so. -/
  | char (c : Char) (raw : Bool)
  | dot
  | cls (c : WrittenClass)
  | textStart
  | textEnd
  | edge (e : Edge)
  | caret
  | dollar
  /-- The start of a group, which may be numbered and then have a name. -/
  | group (numbered : Bool) (name : Option Text) (changes : List FlagChange)
  | flags (changes : List FlagChange)
  | close
  | bar
  | rep (min : Nat) (max : Option Nat) (greedy : Bool)

namespace Token

open Parse

/-- The deepest nesting of groups, sequences, alternatives, repetitions and classes. -/
def nestLimit : Nat := 250

/-- Passes over blanks, and comments up to the end of the line, if `verbose`. -/
def skip (verbose : Bool) : Parse Unit := do
  if verbose then
    let _ ← many ((do let _ ← takeWhile1 Text.isBlank) <|>
      (do sym '#'; let _ ← takeWhile (· != '\n'); let _ ← accepts (sym '\n')))

section

variable (verbose : Bool)

/-- A character with what may be passed over after it. -/
def spaced (p : Char → Bool) : Parse Char := do
  let c ← satisfy p
  skip verbose
  return c

/-! ## Escapes -/

inductive Escape where
  | char (c : Char) (raw : Bool)
  | cls (c : CharClass)
  | textStart
  | textEnd
  | edge (e : Edge)

def times {α : Type} (p : Parse α) : Nat → Parse (List α)
  | 0 => pure []
  | n + 1 => do
    let a ← p
    return a :: (← times p n)

/-- The digits after `\x`, `\u` or `\U`: as many as the letter asks for, or any number in braces. -/
def hexEscape (digits : Nat) : Parse Escape := do
  skip verbose
  (do
    sym '{'
    skip verbose
    let ds ← many1 (spaced verbose Text.isHex)
    sym '}'
    skip verbose
    return .char (← Text.scalar? ds) false) <|>
  (do
    let ds ← times (spaced verbose Text.isHex) digits
    return .char (← Text.scalar? ds) (digits = 2))

/-- A property named in braces: by a single name, or by a name and a value with `=`, `:` or `!=`
between them. -/
def propertyNamed? (negated : Bool) (name : Text) : Option CharClass :=
  let split (mark : Text) : Option (Text × Text) :=
    (List.range name.length).findSome? fun i =>
      (Text.after? mark (name.drop i)).map fun value => (name.take i, value)
  match split ['!', '='], split [':'], split ['='] with
  | some (n, v), _, _ => (Property.valued? n v).map (.property · !negated)
  | none, some (n, v), _ | none, none, some (n, v) =>
    (Property.valued? n v).map (.property · negated)
  | none, none, none => (Property.named? name).map (.property · negated)

/-- What follows `\p` or `\P`: a letter, or a name in braces. -/
def propertyEscape (negated : Bool) : Parse Escape := do
  skip verbose
  (do
    sym '{'
    skip verbose
    let name ← many (spaced verbose (· != '}'))
    sym '}'
    return .cls (← propertyNamed? negated name)) <|>
  (do
    let c ← spaced verbose fun c => c != '{' && c != '\\'
    return .cls (← (Property.named? [c]).map (.property · negated)))

/-- Punctuation and controls stand for themselves after a backslash. -/
def isEscapable (c : Char) : Bool :=
  c.toNat < 128 && !c.isAlphanum && c != '<' && c != '>'

def edgeNamed? (name : Text) : Option Edge :=
  if name = "start".toList then some .wordStart
  else if name = "end".toList then some .wordEnd
  else if name = "start-half".toList then some .halfStart
  else if name = "end-half".toList then some .halfEnd
  else none

def isEdgeNameChar (c : Char) : Bool := c.isAlpha || c == '-'

/-- `\b`, or one of its named kinds in braces. Braces around something else are a repetition and are
left alone. -/
def edgeEscape : Parse Escape := do
  let isNamed ← accepts (ahead (do sym '{'; skip verbose; satisfy isEdgeNameChar))
  if isNamed then
    sym '{'
    skip verbose
    let name ← many1 (spaced verbose isEdgeNameChar)
    sym '}'
    return .edge (← edgeNamed? name)
  else return .edge .boundary

/-- What follows a backslash. -/
def escape : Parse Escape := do
  match ← anyChar with
  | 'd' => return .cls (.shorthand .digit false)
  | 'D' => return .cls (.shorthand .digit true)
  | 's' => return .cls (.shorthand .blank false)
  | 'S' => return .cls (.shorthand .blank true)
  | 'w' => return .cls (.shorthand .word false)
  | 'W' => return .cls (.shorthand .word true)
  | 'p' => propertyEscape verbose false
  | 'P' => propertyEscape verbose true
  | 'x' => hexEscape verbose 2
  | 'u' => hexEscape verbose 4
  | 'U' => hexEscape verbose 8
  | 'a' => return .char '\x07' false
  | 'f' => return .char '\x0C' false
  | 't' => return .char '\t' false
  | 'n' => return .char '\n' false
  | 'r' => return .char '\r' false
  | 'v' => return .char '\x0B' false
  | 'A' => return .textStart
  | 'z' => return .textEnd
  | 'b' => edgeEscape verbose
  | 'B' => return .edge .noBoundary
  | '<' => return .edge .wordStart
  | '>' => return .edge .wordEnd
  | c => if isEscapable c then return .char c false else failure

/-! ## Classes -/

def asciiClass : Parse WrittenClass := do
  literal "[:"
  let negated ← accepts (sym '^')
  let name ← takeWhile (· != ':')
  literal ":]"
  return ⟨.bracket negated (← CharClass.ascii? (String.ofList name)), 0⟩

/-- A character or an escape inside a bracket. -/
def classItem : Parse Escape := do
  match ← anyChar with
  | '\\' => escape verbose
  | c => return .char c false

/-- A single item or a range. A `-` before `]` or another `-` makes no range. -/
def classRange : Parse WrittenClass := do
  let first ← classItem verbose
  skip verbose
  let isRange ← accepts (do
    sym '-'
    skip verbose
    notAhead (sym ']')
    notAhead (sym '-'))
  if isRange then
    match first, ← classItem verbose with
    | .char lo _, .char hi _ => if lo ≤ hi then return ⟨.range lo hi, 0⟩ else failure
    | _, _ => failure
  else
    match first with
    | .char c _ => return ⟨.range c c, 0⟩
    | .cls c => return ⟨c, 0⟩
    | _ => failure

/-- The set operations, written between two lists of items. -/
def setOperator : Parse (CharClass → CharClass → CharClass) :=
  (do literal "&&"; return .inter) <|> (do literal "--"; return .diff) <|>
    (do literal "~~"; return .symmDiff)

/-- Several items are one level deeper than the deepest of them. -/
def unionOf : List WrittenClass → WrittenClass
  | [] => ⟨.empty, 0⟩
  | [c] => c
  | cs => ⟨(cs.map (·.cls)).foldl .union .empty, (cs.map (·.depth)).foldl max 0 + 1⟩

/-- A bracketed class, after its `[`, with at most `depth` brackets inside one another. -/
def bracket : Nat → Parse WrittenClass
  | 0 => failure
  | depth + 1 => do
    skip verbose
    let negated ← accepts (do sym '^'; skip verbose)
    let dashes ← many (spaced verbose (· == '-'))
    let closing ←
      if dashes.isEmpty then (do return (← option (spaced verbose (· == ']'))).toList) else pure []
    let leading := (dashes ++ closing).map fun c => (⟨.range c c, 0⟩ : WrittenClass)
    let item : Parse WrittenClass := do
      skip verbose
      notAhead (sym ']')
      notAhead setOperator
      asciiClass <|> (do sym '['; bracket depth) <|>
        (do notAhead (sym '['); classRange verbose)
    let first ← many item
    let rest ← many (do
      skip verbose
      let op ← setOperator
      return (op, unionOf (← many item)))
    skip verbose
    sym ']'
    let whole := rest.foldl
      (fun left (op, right) => ⟨op left.cls right.cls, max left.depth right.depth + 1⟩)
      (unionOf (leading ++ first))
    return ⟨.bracket negated whole.cls, whole.depth + 1⟩

/-! ## Groups and repetitions -/

def isNameStart (c : Char) : Bool := c == '_' || Text.isAlphabetic c

def isNameChar (c : Char) : Bool :=
  c == '_' || c == '.' || c == '[' || c == ']' || Text.isAlphanumeric c

def groupName : Parse Text := do
  let c ← satisfy isNameStart
  let rest ← takeWhile isNameChar
  sym '>'
  return c :: rest

/-- The flags of a group, those after a `-` switched off. No flag is named twice, and a `-` has
flags after it. -/
def flagChanges : Parse (List FlagChange) := do
  let on ← takeWhile isFlag
  let off ← option (do sym '-'; takeWhile1 isFlag)
  let off := off.getD []
  if (on ++ off).Nodup then return on.map (⟨·, true⟩) ++ off.map (⟨·, false⟩) else failure

/-- What follows an opening parenthesis. -/
def groupStart : Parse Token := do
  skip verbose
  (do
    literal "?P<" <|> literal "?<"
    return .group true (some (← groupName)) []) <|>
  (do
    sym '?'
    let changes ← flagChanges
    (do sym ':'; return .group false none changes) <|>
      (do sym ')'; if changes.isEmpty then failure else return .flags changes)) <|>
  (do
    notAhead (sym '?')
    return .group true none [])

/-- A number of rounds, with blanks around it. -/
def count : Parse Nat := do
  let _ ← takeWhile Text.isBlank
  let ds ← many1 (spaced verbose Char.isDigit)
  let _ ← many (spaced verbose Text.isBlank)
  let n := ds.foldl (fun n c => 10 * n + (c.toNat - '0'.toNat)) 0
  if n < 0x100000000 then return n else failure

/-- The bounds of a repetition, after its opening brace. -/
def bounds : Parse (Nat × Option Nat) := do
  skip verbose
  let least ← count verbose
  (do sym '}'; return (least, some least)) <|>
    (do
      sym ','
      skip verbose
      (do sym '}'; return (least, none)) <|>
        (do
          let most ← count verbose
          sym '}'
          if least ≤ most then return (least, some most) else failure))

def repetition (least : Nat) (most : Option Nat) : Parse Token := do
  let isLazy ← accepts (sym '?')
  return .rep least most (!isLazy)

/-- The next token. -/
def read : Parse Token := do
  match ← anyChar with
  | '(' => groupStart verbose
  | ')' => return .close
  | '|' => return .bar
  | '[' => return .cls (← bracket verbose nestLimit)
  | '?' => repetition 0 (some 1)
  | '*' => repetition 0 none
  | '+' => repetition 1 none
  | '{' =>
    let (least, most) ← bounds verbose
    skip verbose
    repetition least most
  | '.' => return .dot
  | '^' => return .caret
  | '$' => return .dollar
  | '\\' =>
    match ← escape verbose with
    | .char c raw => return .char c raw
    | .cls c => return .cls ⟨c, 0⟩
    | .textStart => return .textStart
    | .textEnd => return .textEnd
    | .edge e => return .edge e
  | c => return .char c false

end

end Token

end FrontLint.Pattern
