/-
  FrontLint.Text.Blank — white space (the Unicode property White_Space, 25 characters), trimming
  and words.
-/

import FrontLint.Text.Basic

namespace FrontLint.Text

/-- White space of any kind, newlines included. -/
def isBlank (c : Char) : Bool :=
  let n := c.toNat
  n == 0x20 || (0x09 ≤ n && n ≤ 0x0D) || n == 0x85 || n == 0xA0 || n == 0x1680 ||
    (0x2000 ≤ n && n ≤ 0x200A) || n == 0x2028 || n == 0x2029 || n == 0x202F || n == 0x205F ||
    n == 0x3000

def trimStart (t : Text) : Text := t.dropWhile isBlank

def trimEnd (t : Text) : Text := (t.reverse.dropWhile isBlank).reverse

def trim (t : Text) : Text := trimEnd (trimStart t)

/-- Nothing but white space. -/
def allBlank (t : Text) : Bool := t.all isBlank

/-- The maximal runs of characters that are not white space. -/
def words (t : Text) : List Text := (splitOn isBlank t).filter (! ·.isEmpty)

/-- The words joined by single spaces. -/
def joinWords : List Text → Text
  | [] => []
  | [w] => w
  | w :: ws => w ++ ' ' :: joinWords ws

end FrontLint.Text
