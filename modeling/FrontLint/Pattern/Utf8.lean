/-
  FrontLint.Pattern.Utf8 — a set of characters as sequences of byte ranges. A text of bytes is the
  written form of a member when it falls into one of the sequences, byte for byte.

  Code points are cut where the length of the written form changes, and then so that each part is
  all that its first and last bytes span.
-/

import FrontLint.Text.Basic
import FrontLint.Text.CharSet

namespace FrontLint.Pattern.Utf8

/-- A range of bytes, both ends included. -/
abbrev ByteRange := Nat × Nat

/-- The bytes of a code point. -/
def encode (n : Nat) : List Nat :=
  if n < 0x80 then [n]
  else if n < 0x800 then [0xC0 + n / 0x40, 0x80 + n % 0x40]
  else if n < 0x10000 then [0xE0 + n / 0x1000, 0x80 + n / 0x40 % 0x40, 0x80 + n % 0x40]
  else [0xF0 + n / 0x40000, 0x80 + n / 0x1000 % 0x40, 0x80 + n / 0x40 % 0x40, 0x80 + n % 0x40]

/-- The text that is written as these bytes. -/
def decode? (bytes : List Nat) : Option Text :=
  (String.fromUTF8? ⟨(bytes.map Nat.toUInt8).toArray⟩).map String.toList

/-- Where to cut a range so that blocks of `size` code points are whole or not left, as the last
code point of the first part. -/
def blockCut? (lo hi size : Nat) : Option Nat :=
  if lo / size = hi / size then none
  else if lo % size ≠ 0 then some (lo - lo % size + size - 1)
  else if hi % size ≠ size - 1 then some (hi - hi % size - 1)
  else none

/-- The last code point of the first part of a range, if the range has to be cut. -/
def cut? (lo hi : Nat) : Option Nat :=
  match [0x7F, 0x7FF, 0xFFFF].find? fun last => lo ≤ last && last < hi with
  | some last => some last
  | none =>
    if hi < 0x80 then none
    else [0x40, 0x1000, 0x40000].findSome? (blockCut? lo hi)

/-- The parts of a range, ascending. -/
def parts (lo hi : Nat) : List (Nat × Nat) :=
  match cut? lo hi with
  | none => [(lo, hi)]
  | some mid => if lo ≤ mid ∧ mid < hi then parts lo mid ++ parts (mid + 1) hi else [(lo, hi)]
termination_by hi - lo
decreasing_by all_goals omega

/-- A range without its surrogates. -/
def withoutSurrogates (lo hi : Nat) : List (Nat × Nat) :=
  CharSet.between lo (min hi 0xD7FF) ++ CharSet.between (max lo 0xE000) hi

/-- The sequences of byte ranges of a set, ascending. -/
def sequences (s : CharSet) : List (List ByteRange) :=
  s.ranges.toList.flatMap fun (lo, hi) =>
    (withoutSurrogates lo hi).flatMap fun (lo, hi) =>
      (parts lo hi).map fun (lo, hi) => (encode lo).zip (encode hi)

end FrontLint.Pattern.Utf8
