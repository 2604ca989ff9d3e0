/-
  FrontLint.Preview — a matched text of several lines, shown on one: its words joined by single
  spaces, cut to 80 characters.
-/

import FrontLint.Text.Blank

namespace FrontLint

/-- The longest preview. -/
def previewLimit : Nat := 80

def preview (t : Text) : Text :=
  let flat := Text.joinWords (Text.words t)
  if flat.length ≤ previewLimit then flat else flat.take (previewLimit - 3) ++ ['.', '.', '.']

end FrontLint
