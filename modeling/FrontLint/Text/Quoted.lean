/-
  FrontLint.Text.Quoted — a text between double quotes, on one line, with escapes for what a reader
  could not see.
-/

import FrontLint.Text.Basic
import FrontLint.Text.Extender
import FrontLint.Text.Printable

namespace FrontLint.Text

/-- Quotes and backslashes take a backslash; unprintable characters, and those that would join the
one before, are given by number. -/
def quotedChar (c : Char) : Text :=
  match c with
  | '"' => ['\\', '"']
  | '\\' => ['\\', '\\']
  | '\n' => ['\\', 'n']
  | '\r' => ['\\', 'r']
  | '\t' => ['\\', 't']
  | '\x00' => ['\\', '0']
  | c =>
    if isPrintable c && !isExtender c then [c]
    else ['\\', 'u', '{'] ++ Nat.toDigits 16 c.toNat ++ ['}']

def quoted (t : Text) : Text := '"' :: t.flatMap quotedChar ++ ['"']

end FrontLint.Text
