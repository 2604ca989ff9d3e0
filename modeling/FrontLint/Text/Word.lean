/-
  FrontLint.Text.Word — the characters that names are made of: letters and numbers of any script.
-/

import FrontLint.Text.Alphabetic

namespace FrontLint.Text

def isNumber (c : Char) : Bool :=
  if c.toNat < 128 then c.isDigit else Category.number.contains c

/-- A letter or a number of any script. -/
def isAlphanumeric (c : Char) : Bool := isAlphabetic c || isNumber c

end FrontLint.Text
