/-
  FrontLint.Text.Hex — hexadecimal digits, and the characters they name.
-/

import FrontLint.Text.Basic

namespace FrontLint.Text

def hexValue? (c : Char) : Option Nat :=
  if c.isDigit then some (c.toNat - '0'.toNat)
  else if 'a' ≤ c ∧ c ≤ 'f' then some (c.toNat - 'a'.toNat + 10)
  else if 'A' ≤ c ∧ c ≤ 'F' then some (c.toNat - 'A'.toNat + 10)
  else none

def isHex (c : Char) : Bool := (hexValue? c).isSome

/-- The number with these digits in a base up to sixteen. -/
def number? (base : Nat) (digits : Text) : Option Nat := do
  let ds ← digits.mapM hexValue?
  if ds.all (· < base) then some (ds.foldl (fun n d => base * n + d) 0) else none

/-- The character with these hexadecimal digits, if there is one. -/
def scalar? (digits : Text) : Option Char := do
  let n ← number? 16 digits
  if n.isValidChar then some (Char.ofNat n) else none

end FrontLint.Text
