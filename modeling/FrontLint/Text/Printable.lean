/-
  FrontLint.Text.Printable — the characters with a visible form: letters, marks, numbers,
  punctuation, symbols and the plain space.
-/

import FrontLint.Text.Category

namespace FrontLint.Text

def visible : CharSet :=
  .unionAll [Category.letter, Category.mark, Category.number, Category.punctuation,
    Category.symbol]

/-- Letters that only fill the place of one and are not drawn. -/
def isFiller (c : Char) : Bool :=
  let n := c.toNat
  n == 0x115F || n == 0x1160 || n == 0x3164 || n == 0xFFA0

/-- Has a visible form, or is the plain space. -/
def isPrintable (c : Char) : Bool := c == ' ' || (visible.contains c && !isFiller c)

end FrontLint.Text
