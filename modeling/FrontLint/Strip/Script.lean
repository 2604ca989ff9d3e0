/-
  FrontLint.Strip.Script — comments of script lines.

  A character is kept, or blanked by as many spaces as it has bytes, so what is kept stays at its
  byte offset. Quoted strings, template literals and regular expression literals hide comment
  openers; a backslash outside a comment keeps the character after it from meaning anything. Strings
  and regular expressions end with the line, block comments and template literals do not.

  Whether a `/` divides or opens a regular expression literal is read off the cleaned text before
  it on the same line.
-/

import FrontLint.Text.Blank
import FrontLint.Text.Word
import FrontLint.Strip.State

namespace FrontLint.Strip

/-- The literal a script character stands in. -/
inductive Literal where
  | none
  | single
  | double
  | template
  | regex
  | regexClass
  deriving DecidableEq, Repr

def isIdentifierChar (c : Char) : Bool := Text.isAlphanumeric c || c == '_' || c == '$'

/-- The keywords that an expression may follow. -/
def operatorKeywords : List Text :=
  ["return", "throw", "case", "typeof", "instanceof", "in", "of"].map Text.ofString

/-- Whether the text, given backwards, ends in a keyword that is a word of its own and no
property name. -/
def endsInKeyword (back : Text) : Bool :=
  operatorKeywords.any fun keyword =>
    match Text.after? keyword.reverse back with
    | some [] => true
    | some (c :: _) => !isIdentifierChar c && c != '.'
    | none => false

/-- Whether a `/` after this text, given backwards, opens a regular expression literal. -/
def regexMayStart (back : Text) : Bool :=
  match back.dropWhile Text.isBlank with
  | [] => true
  | last :: before =>
    endsInKeyword (last :: before) ||
      !(isIdentifierChar last || last == ')' || last == ']' || last == '}')

/-- The literal after an unescaped character `c` that is no comment opener; `back` is the cleaned
text before it, backwards. -/
def Literal.next (back : Text) (c : Char) : Literal → Literal
  | .none =>
    if c == '/' then (if regexMayStart back then .regex else .none)
    else if c == '\'' then .single
    else if c == '"' then .double
    else if c == '`' then .template
    else .none
  | .single => if c == '\'' then .none else .single
  | .double => if c == '"' then .none else .double
  | .template => if c == '`' then .none else .template
  | .regex => if c == '[' then .regexClass else if c == '/' then .none else .regex
  | .regexClass => if c == ']' then .regex else .regexClass

/-- Strips the rest of a script line, from inside a block comment or not and inside a literal or
not. `back` is the cleaned text so far, backwards. -/
def scriptFrom : Bool → Literal → Text → Text → Text × State
  | inComment, lit, back, [] => (back.reverse, ⟨inComment, lit == .template⟩)
  | true, lit, back, '*' :: '/' :: rest => scriptFrom false lit (Text.spaces 2 ++ back) rest
  | true, lit, back, c :: rest => scriptFrom true lit (Text.blank c ++ back) rest
  | false, lit, back, '\\' :: c :: rest => scriptFrom false lit (c :: '\\' :: back) rest
  | false, .none, back, '/' :: '/' :: rest =>
    ((Text.spaces (2 + Text.width rest) ++ back).reverse, .neutral)
  | false, .none, back, '/' :: '*' :: rest => scriptFrom true .none (Text.spaces 2 ++ back) rest
  | false, lit, back, c :: rest => scriptFrom false (lit.next back c) (c :: back) rest

/-- A script line with its comments blanked, and what it leaves open. -/
def script (line : Text) (s : State) : Text × State :=
  scriptFrom s.inComment (if s.inTemplate then .template else .none) [] line

end FrontLint.Strip
