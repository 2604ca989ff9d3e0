/-
  FrontLint.Proofs.Pattern.Escape — patterns that are written for a fixed text.

  `escape` puts a backslash before each character that means something in a pattern. The reading of
  such a pattern takes one character of the text after the other, and joins them. Proved:
  - `Token.read_escapeChar`: the token of an escaped character is that character.
  - `Builder.run_escape`: so the tokens of an escaped text are its characters.
  - `parse?_escape`: which are read as the text.
  - `fits_text`: how long a text may be.
  - `ofString_escape`: the escaped text is a pattern for the text, or it is too large.
-/

import FrontLint.Pattern.Match
import FrontLint.Proofs.Text.Offset
import Mathlib.Tactic.FinCases

namespace FrontLint.Pattern

open FrontLint.Text

/-! ## Escaped texts -/

/-- The characters that mean something in a pattern, or in a part of one. -/
def metaChars : List Char :=
  ['\\', '.', '+', '*', '?', '(', ')', '|', '[', ']', '\x7b', '\x7d', '^', '$', '#', '&', '-', '~']

def escapeChar (c : Char) : Text := if c ∈ metaChars then ['\\', c] else [c]

/-- The written form of a text. -/
def escape (w : Text) : Text := w.flatMap escapeChar

theorem escape_cons (c : Char) (w : Text) : escape (c :: w) = escapeChar c ++ escape w := rfl

theorem length_escapeChar (c : Char) : 1 ≤ (escapeChar c).length := by
  unfold escapeChar
  split <;> simp

theorem length_le_escape (w : Text) : w.length ≤ (escape w).length := by
  induction w with
  | nil => exact Nat.le_refl _
  | cons c w ih =>
    have hchar := length_escapeChar c
    rw [escape_cons, List.length_append, List.length_cons]
    omega

/-! ## Reading -/

theorem Token.read_meta {c : Char} (h : c ∈ metaChars) (rest : Text) :
    Token.read false ('\\' :: c :: rest) = some (.char c false, rest) := by
  unfold metaChars at h
  fin_cases h <;> rfl

theorem Token.read_of_not_meta {c : Char} (h : c ∉ metaChars) (rest : Text) :
    Token.read false (c :: rest) = some (.char c false, rest) := by
  have hne : ∀ d ∈ metaChars, c ≠ d := by
    intro d hd he
    exact h (he ▸ hd)
  simp only [Token.read, bind, StateT.bind, Parse.anyChar, Option.bind_some]
  -- The characters that a pattern is cut at are all among the meta characters.
  split
  all_goals first | rfl | exact absurd rfl (hne _ (by decide))

/-- An escaped character is read as that character. -/
theorem Token.read_escapeChar (c : Char) (rest : Text) :
    Token.read false (escapeChar c ++ rest) = some (.char c false, rest) := by
  unfold escapeChar
  split
  · rename_i h
    exact read_meta h rest
  · rename_i h
    exact read_of_not_meta h rest

/-- The piece of a single character. -/
def charPiece (c : Char) : Piece := .atom (.text [c])

namespace Builder

/-- Nothing is passed over between the tokens, unless flags say so. -/
theorem skip_initial {b : Builder} (h : b.flags = .initial) (u : Text) :
    Token.skip b.flags.verbose u = some ((), u) := by
  rw [h]
  rfl

/-- The tokens of an escaped text are its characters. -/
theorem run_escape {b : Builder} (hflags : b.flags = .initial) {n : Nat} {w : Text} (hn : w.length < n) :
    run n b (escape w) =
      some { b with level := { b.level with sequence := (w.map charPiece).reverse ++ b.level.sequence } } := by
  induction w generalizing b n with
  | nil =>
    obtain ⟨n, rfl⟩ := Nat.exists_eq_succ_of_ne_zero (Nat.ne_of_gt hn)
    simp [run, escape, skip_initial hflags]
  | cons c w ih =>
    obtain ⟨n, rfl⟩ := Nat.exists_eq_succ_of_ne_zero (Nat.ne_of_gt (Nat.zero_lt_of_lt hn))
    have hsome : (escape (c :: w)).isEmpty = false := by
      have hlen := length_le_escape (c :: w)
      rw [List.isEmpty_eq_false_iff, ← List.length_pos_iff]
      exact Nat.lt_of_lt_of_le (Nat.succ_pos w.length) hlen
    have hread : Token.read b.flags.verbose (escape (c :: w)) = some (.char c false, escape w) := by
      rw [hflags, escape_cons]
      exact Token.read_escapeChar c (escape w)
    have hstep : b.step (.char c false) = some (b.push (charPiece c)) := by
      simp only [step, hflags]
      rfl
    have hrest := ih (b := b.push (charPiece c)) hflags (Nat.lt_of_succ_lt_succ hn)
    simp only [run, skip_initial hflags, hread, hstep, hsome, Option.bind_eq_bind, Option.bind_some, Bool.false_eq_true,
      if_false, hrest]
    simp [push, Level.push]

end Builder

namespace Regex

theorem joinTexts_chars {c : Char} (w : Text) :
    joinTexts ((c :: w).map fun c => text [c]) = [text (c :: w)] := by
  induction w generalizing c with
  | nil => rfl
  | cons d w ih =>
    rw [List.map_cons, joinTexts, ih]
    rfl

/-- The characters of a text, one after the other, are the text. -/
theorem concat_chars {w : Text} (hw : w ≠ []) : concat (w.map fun c => text [c]) = text w := by
  obtain ⟨c, w, rfl⟩ := List.exists_cons_of_ne_nil hw
  have hpieces : ((c :: w).map fun c => text [c]).flatMap pieces = (c :: w).map fun c => text [c] := by
    rw [List.flatMap_map]
    exact List.map_eq_flatMap.symm
  rw [concat, hpieces, joinTexts_chars]
  rfl

end Regex

/-- The pieces of a text make a piece of no more than one level. -/
theorem fold_charPieces {w : Text} (hw : w ≠ []) :
    (Piece.fold .concat (w.map charPiece)).regex = .text w ∧ (Piece.fold .concat (w.map charPiece)).depth ≤ 1 := by
  match w, hw with
  | [c], _ => exact ⟨rfl, Nat.zero_le 1⟩
  | c :: d :: w, hw =>
    have hdepth : ((c :: d :: w).map charPiece).map (·.depth) = List.replicate (w.length + 2) 0 := by
      rw [List.map_map]
      exact List.map_const'
    have hmax : ∀ n, (List.replicate n 0).foldl max 0 = 0 := by
      intro n
      induction n with
      | zero => rfl
      | succ n ih => exact ih
    constructor
    · have hregex : ((c :: d :: w).map charPiece).map (·.regex) = (c :: d :: w).map fun c => .text [c] := by
        rw [List.map_map]
        rfl
      show Regex.concat (((c :: d :: w).map charPiece).map (·.regex)) = _
      rw [hregex, Regex.concat_chars hw]
    · show (((c :: d :: w).map charPiece).map (·.depth)).foldl max 0 + 1 ≤ 1
      rw [hdepth, hmax]

/-- An escaped text is read as the text. -/
theorem parse?_escape {w : Text} (hw : w ≠ []) : Regex.parse? (escape w) = some (.text w) := by
  have hrun := Builder.run_escape (b := .start) rfl (Nat.lt_succ_of_le (length_le_escape w))
  obtain ⟨hregex, hdepth⟩ := fold_charPieces hw
  have hcontent : ∀ l : Level, l.alternatives = [] → l.content = Piece.fold .concat l.sequence.reverse := by
    intro l hl
    simp [Level.content, Level.bar, hl, Piece.fold]
  rw [Regex.parse?, hrun]
  simp only [Option.bind_eq_bind, Option.bind_some, Builder.finish]
  rw [hcontent _ rfl]
  simp only [Builder.start, Level.start, List.append_nil, List.reverse_reverse, hregex]
  rw [if_pos ⟨rfl, Nat.le_trans hdepth (by decide)⟩]

/-! ## Sizes -/

theorem Extent.isSome_grow (e : Extent) (states arcs ways : Nat) :
    (e.grow states arcs ways).isSome = true ↔ (e.plus states arcs ways).bytes ≤ sizeLimit := by
  simp [grow]

theorem Extent.isSome_grow_bind (e : Extent) (states arcs ways : Nat) (next : Extent → Option Extent) :
    ((e.grow states arcs ways).bind next).isSome = true ↔
      (e.plus states arcs ways).bytes ≤ sizeLimit ∧ (next (e.plus states arcs ways)).isSome = true := by
  by_cases h : (e.plus states arcs ways).bytes ≤ sizeLimit
  · simp [grow, h]
  · simp [grow, h]

namespace Regex

/-- The automata of a text have a state for each of its bytes, and few more. -/
theorem fits_text (w : Text) : (text w).fits = true ↔ 32 * width w + 208 ≤ sizeLimit := by
  simp only [fits, wholeExtent, startsText, endsText, extent, Place.finish, Bool.false_eq_true, if_false,
    Option.bind_eq_bind, Option.bind_assoc, Option.bind_some, Bool.and_eq_true, Extent.isSome_grow_bind,
    Extent.isSome_grow, Extent.plus, Extent.bytes, Extent.zero, sizeLimit]
  omega

theorem width_le_bytesOf (w : Text) : width w ≤ 4 * (bytesOf w).length := by
  induction w with
  | nil => exact Nat.le_refl _
  | cons c w ih =>
    have hsize := c.utf8Size_le_four
    have hchar : 1 ≤ (Utf8.encode c.toNat).length := by
      unfold Utf8.encode
      split_ifs <;> simp
    have hbytes : (bytesOf (c :: w)).length = (Utf8.encode c.toNat).length + (bytesOf w).length :=
      List.length_append
    rw [width_cons]
    omega

/-- A text of many bytes is not searched for directly. -/
theorem texts?_eq_none {w : Text} (h : Starts.lengthLimit < (bytesOf w).length) : (text w).texts? = none := by
  have hcut : Starts.keepFirst Starts.lengthLimit ⟨bytesOf w, true⟩ =
      ⟨(bytesOf w).take Starts.lengthLimit, false⟩ := if_pos h
  have hstarts : (text w).starts = some [⟨(bytesOf w).take Starts.lengthLimit, false⟩] := by
    rw [starts, startsFrom, hcut]
    simp [Starts.Joint.add, Starts.noneWhole, Starts.nothing, Starts.followed, Starts.keepFirst, Starts.dedup,
      Starts.totalLimit, Option.filter_some]
  rw [texts?, hstarts]
  simp [Starts.minimal]

end Regex

/-- An escaped text is a pattern for the text, unless it is too large for one. -/
theorem ofString_escape {w : Text} (hw : w ≠ []) :
    ofString (String.ofList (escape w)) =
      if 32 * width w + 208 ≤ sizeLimit then .ok ⟨String.ofList (escape w), .ofRegex (.text w)⟩
      else .error .tooLarge := by
  rw [ofString, String.toList_ofList, Regex.ofText, parse?_escape hw]
  by_cases h : 32 * width w + 208 ≤ sizeLimit
  · simp only [(Regex.fits_text w).mpr h, if_true, if_pos h]
    rfl
  · have hlong : Starts.lengthLimit < (Regex.bytesOf w).length := by
      have hle := Regex.width_le_bytesOf w
      simp only [sizeLimit, Starts.lengthLimit] at h ⊢
      omega
    have hfits : (Regex.text w).fits = false := by
      rw [← Bool.not_eq_true, Regex.fits_text]
      exact h
    simp only [hfits, Bool.false_eq_true, if_false, Regex.texts?_eq_none hlong, if_neg h]
    rfl

theorem program_of_escape {w : Text} (hw : w ≠ []) {p : Pattern}
    (h : ofString (String.ofList (escape w)) = .ok p) : p.program = .ofRegex (.text w) := by
  rw [ofString_escape hw] at h
  split at h
  · cases h
    rfl
  · cases h

end FrontLint.Pattern
