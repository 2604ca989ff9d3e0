/-
  FrontLint.Paint — styled text on a terminal: a control sequence before and a reset after. Where a
  styled text has a reset of its own, the style is taken up again behind it.
-/

import FrontLint.Text.Basic

namespace FrontLint

/-- Boldness or dimness, and a colour, by their codes. -/
structure Paint where
  weight : Option Nat
  colour : Option Nat
  deriving DecidableEq, Repr

namespace Paint

def bold : Paint := ⟨some 1, none⟩

def dimmed : Paint := ⟨some 2, none⟩

def red : Paint := ⟨none, some 31⟩

def green : Paint := ⟨none, some 32⟩

def yellow : Paint := ⟨none, some 33⟩

def blue : Paint := ⟨none, some 34⟩

def cyan : Paint := ⟨none, some 36⟩

def inBold (p : Paint) : Paint := { p with weight := some 1 }

def escape : Char := '\x1B'

def reset : Text := [escape, '[', '0', 'm']

/-- The sequence that begins a style. -/
def opening (p : Paint) : Text :=
  let codes := (p.weight.toList ++ p.colour.toList).map Text.decimal
  escape :: '[' :: [';'].intercalate codes ++ ['m']

/-- Takes a style up again after every reset in a text. -/
def resumed (p : Paint) : Text → Text
  | '\x1B' :: '[' :: '0' :: 'm' :: t => reset ++ p.opening ++ resumed p t
  | c :: t => c :: resumed p t
  | [] => []

/-- A text in a style, or as it is where styles are off. -/
def apply (p : Paint) (on : Bool) (t : Text) : Text :=
  if on then p.opening ++ p.resumed t ++ reset else t

end Paint

end FrontLint
