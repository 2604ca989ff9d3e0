/-
  FrontLint.JsonValue — JSON as reports use it, on one line or indented. Keys stand in the order in
  which they are given.
-/

import FrontLint.Text.Basic

namespace FrontLint

inductive JsonValue where
  | string (t : Text)
  | number (n : Nat)
  | list (items : List JsonValue)
  | object (fields : List (String × JsonValue))

namespace JsonValue

/-- Quotes, backslashes and the controls below the space are escaped, all else is kept. -/
def escapedChar (c : Char) : Text :=
  match c with
  | '"' => ['\\', '"']
  | '\\' => ['\\', '\\']
  | '\x08' => ['\\', 'b']
  | '\t' => ['\\', 't']
  | '\n' => ['\\', 'n']
  | '\x0C' => ['\\', 'f']
  | '\r' => ['\\', 'r']
  | c =>
    if c.toNat < 0x20 then
      ['\\', 'u', '0', '0', Nat.digitChar (c.toNat / 16), Nat.digitChar (c.toNat % 16)]
    else [c]

def quote (t : Text) : Text := '"' :: t.flatMap escapedChar ++ ['"']

def ofString (s : String) : JsonValue := .string s.toList

mutual

/-- On one line, without blanks. -/
def compact : JsonValue → Text
  | .string t => quote t
  | .number n => Text.decimal n
  | .list items => '[' :: [','].intercalate (compactItems items) ++ [']']
  | .object fields => '{' :: [','].intercalate (compactFields fields) ++ ['}']

def compactItems : List JsonValue → List Text
  | [] => []
  | v :: rest => v.compact :: compactItems rest

def compactFields : List (String × JsonValue) → List Text
  | [] => []
  | (key, v) :: rest => (quote key.toList ++ ':' :: v.compact) :: compactFields rest

end

/-- The start of a line at a depth: two spaces for each level. -/
def indent (depth : Nat) : Text := '\n' :: Text.spaces (2 * depth)

/-- Items on lines of their own between two brackets; no items, no lines. -/
def enclose (depth : Nat) (opening closing : Char) (items : List Text) : Text :=
  if items.isEmpty then [opening, closing]
  else opening :: [','].intercalate (items.map (indent (depth + 1) ++ ·)) ++
    indent depth ++ [closing]

mutual

/-- On several lines, indented by two spaces for each level. -/
def pretty (depth : Nat) : JsonValue → Text
  | .string t => quote t
  | .number n => Text.decimal n
  | .list items => enclose depth '[' ']' (prettyItems (depth + 1) items)
  | .object fields => enclose depth '{' '}' (prettyFields (depth + 1) fields)

def prettyItems (depth : Nat) : List JsonValue → List Text
  | [] => []
  | v :: rest => v.pretty depth :: prettyItems depth rest

def prettyFields (depth : Nat) : List (String × JsonValue) → List Text
  | [] => []
  | (key, v) :: rest =>
    (quote key.toList ++ ':' :: ' ' :: v.pretty depth) :: prettyFields depth rest

end

end JsonValue

end FrontLint
