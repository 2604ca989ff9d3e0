/-
  FrontLint.Proofs.Strip.Whole — a markup text cleaned line by line, and the same text cleaned in one go.

  Read in one go, a text is a single line that has newlines in it. A comment mark has none, so each mark of
  the text lies in one of its lines, and the state carried from line to line tells what the lines before
  leave open. The one difference is that a newline inside a comment is blanked too. It is one byte, as the
  space put in its place, and no other character has that byte, so it can be put back byte by byte. Proved:
  - `newlineByte_not_mem`: the bytes of a character that is no newline hold none.
  - `bytes_cover`: blanking all of a comment and putting the newlines back is to blank it newlines apart.
  - `cleaned_bytes`: so both ways of cleaning a text give the same bytes.
-/

import FrontLint.Proofs.Strip.Markup

namespace FrontLint.Text

/-! ## Bytes -/

/-- The UTF-8 bytes of a text. -/
def bytes (t : Text) : List UInt8 := t.flatMap String.utf8EncodeChar

@[simp] theorem bytes_cons (c : Char) (t : Text) : bytes (c :: t) = String.utf8EncodeChar c ++ bytes t :=
  List.flatMap_cons

@[simp] theorem bytes_append (t u : Text) : bytes (t ++ u) = bytes t ++ bytes u := List.flatMap_append

@[simp] theorem length_bytes (t : Text) : (bytes t).length = width t := by
  induction t with
  | nil => rfl
  | cons c t ih => simp [ih]

def newlineByte : UInt8 := 10

/-- A byte of a character is its code, or past the codes of ASCII. -/
theorem toNat_of_mem_utf8EncodeChar {c : Char} {b : UInt8} (h : b ∈ String.utf8EncodeChar c) :
    b.toNat = c.val.toNat ∨ 128 ≤ b.toNat := by
  unfold String.utf8EncodeChar at h
  simp only at h
  split at h
  · left
    rw [List.mem_singleton.mp h, UInt8.toNat_ofNat']
    omega
  · right
    repeat' split at h
    all_goals
      simp only [List.mem_cons, List.not_mem_nil, or_false] at h
      rcases h with rfl | rfl | rfl | rfl
    all_goals
      rw [UInt8.toNat_ofNat']
      omega

/-- No other character has the byte of a newline among its own. -/
theorem newlineByte_not_mem {c : Char} (h : c ≠ '\n') : newlineByte ∉ String.utf8EncodeChar c := by
  intro hm
  rcases toNat_of_mem_utf8EncodeChar hm with hcode | hhigh
  · exact h (Char.ext (UInt32.toNat_inj.mp hcode.symm))
  · exact absurd hhigh (by decide)

end FrontLint.Text

namespace FrontLint.Strip

open FrontLint.Text

/-! ## Newlines put back -/

/-- The bytes of a cleaned text, with a newline put back at every place where the text has one. -/
def putBack (raw cleaned : List UInt8) : List UInt8 :=
  List.zipWith (fun r c => if r = newlineByte then newlineByte else c) raw cleaned

theorem putBack_append {a x : List UInt8} (h : a.length = x.length) (b y : List UInt8) :
    putBack (a ++ b) (x ++ y) = putBack a x ++ putBack b y :=
  List.zipWith_append h

/-- Where a text has no newline, nothing is put back. -/
theorem putBack_of_not_mem {raw cleaned : List UInt8} (h : newlineByte ∉ raw)
    (hlen : raw.length = cleaned.length) : putBack raw cleaned = cleaned := by
  induction raw generalizing cleaned with
  | nil =>
    rw [List.eq_nil_of_length_eq_zero hlen.symm]
    rfl
  | cons r raw ih =>
    cases cleaned with
    | nil => cases hlen
    | cons c cleaned =>
      simp only [List.mem_cons, not_or] at h
      have hrest : putBack raw cleaned = cleaned := ih h.2 (Nat.succ.inj hlen)
      show (if r = newlineByte then newlineByte else c) :: putBack raw cleaned = c :: cleaned
      rw [if_neg (Ne.symm h.1), hrest]

theorem bytes_cover {t : Text} {marks : List Bool} (h : marks.length = t.length) :
    bytes (cover t marks) = putBack (bytes t) (bytes (blankOut t marks)) := by
  induction t generalizing marks with
  | nil => rfl
  | cons c t ih =>
    rcases marks with _ | ⟨mark, marks⟩
    · simp at h
    have hrest := ih (Nat.succ.inj h)
    have hlen : (String.utf8EncodeChar c).length = (bytes (if mark then blank c else [c])).length := by
      cases mark <;> simp
    rw [cover_cons, blankOut_cons, bytes_cons, bytes_append, bytes_append, putBack_append hlen, hrest]
    congr 1
    by_cases hc : c = '\n'
    · subst hc
      cases mark <;> rfl
    · rw [putBack_of_not_mem (newlineByte_not_mem hc) hlen]
      simp [hc]

/-- A text cleaned line by line has the bytes of the text cleaned in one go, which are as many as its own,
with each newline of the text put back. -/
theorem cleaned_bytes (t : Text) :
    (strip .markup t .neutral).1.bytes.length = t.bytes.length ∧
      (SpanPass.cleaned t).bytes = putBack t.bytes (strip .markup t .neutral).1.bytes := by
  have hmarks : (commented false t).1.length = t.length := length_commented false t
  rw [cleaned_eq_cover, strip_markup_whole]
  refine ⟨?_, bytes_cover hmarks⟩
  rw [length_bytes, length_bytes]
  exact width_blankOut hmarks

end FrontLint.Strip
