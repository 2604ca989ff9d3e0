/-
  FrontLint.Text.Basic — source text as a list of characters.

  Offsets into a text are counted in UTF-8 bytes, and `width` is that measure. A byte offset is
  turned into a character count by `charsBefore`, which rounds an offset inside a character down to
  the character's start and an offset past the end down to the end.

  Lines are what stands between newlines: a text has one more line than it has newlines, and
  `unlines` puts them back together.
-/

namespace FrontLint

abbrev Text := List Char

namespace Text

def ofString (s : String) : Text := s.toList

def toString (t : Text) : String := String.ofList t

/-- The number of bytes of the UTF-8 form. -/
def width : Text → Nat
  | [] => 0
  | c :: t => c.utf8Size + width t

/-- How many characters end at or before byte offset `offset`. -/
def charsBefore : Text → Nat → Nat
  | [], _ => 0
  | c :: t, offset =>
    if c.utf8Size ≤ offset then charsBefore t (offset - c.utf8Size) + 1 else 0

/-- The byte offset of character number `i`, counted from 0. -/
def byteOffset (t : Text) (i : Nat) : Nat := width (t.take i)

/-- The decimal digits of a number. -/
def decimal (n : Nat) : Text := Nat.toDigits 10 n

def newlines (t : Text) : Nat := t.count '\n'

/-- The pieces between newlines, the last one included. -/
def lines : Text → List Text
  | [] => [[]]
  | c :: t =>
    if c = '\n' then [] :: lines t
    else match lines t with
      | [] => [[c]]
      | l :: ls => (c :: l) :: ls

/-- Joins lines by newlines. -/
def unlines : List Text → Text
  | [] => []
  | [l] => l
  | l :: ls => l ++ '\n' :: unlines ls

/-- `n` spaces. -/
def spaces (n : Nat) : Text := List.replicate n ' '

/-- The spaces that stand in for a character without moving what follows. -/
def blank (c : Char) : Text := spaces c.utf8Size

/-- What is left of `t` after `lead`, if it starts so. -/
def after? : Text → Text → Option Text
  | [], t => some t
  | _ :: _, [] => none
  | a :: lead, c :: t => if a = c then after? lead t else none

def startsWith (lead t : Text) : Bool := (after? lead t).isSome

/-- Whether `t` ends in `tail`. -/
def endsWith (tail t : Text) : Bool := startsWith tail.reverse t.reverse

/-- Whether `part` stands somewhere in `t`. -/
def contains (part : Text) : Text → Bool
  | [] => part.isEmpty
  | c :: t => startsWith part (c :: t) || contains part t

/-- Whether a text comes before another, or is the same: the first characters in which they differ
decide. -/
def le : Text → Text → Bool
  | [], _ => true
  | _ :: _, [] => false
  | a :: s, b :: t => if a = b then le s t else a < b

/-- The ASCII letters in lower case, all else unchanged. -/
def asciiLower (t : Text) : Text := t.map Char.toLower

/-- The pieces between the characters that satisfy `sep`, empty ones included. -/
def splitOn (sep : Char → Bool) : Text → List Text
  | [] => [[]]
  | c :: t =>
    if sep c then [] :: splitOn sep t
    else match splitOn sep t with
      | [] => [[c]]
      | l :: ls => (c :: l) :: ls

end Text

end FrontLint
