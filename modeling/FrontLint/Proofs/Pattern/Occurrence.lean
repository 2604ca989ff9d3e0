/-
  FrontLint.Proofs.Pattern.Occurrence — the matches of a pattern are parts of the text.

  Offsets are counted in bytes, so that they lie on character boundaries is a fact about the search:
  it moves by whole characters and adds up their widths. Proved:
  - `allFrom_occurs` / `findMatches_occurs`: every match is a part of the text, at its offsets.
  - `allFrom_starts` / `findMatches_starts`: each match starts behind the start of the one before it.
-/

import FrontLint.Pattern.Match
import FrontLint.Proofs.Text.Offset

namespace FrontLint

open FrontLint.Text

namespace Match

/-- The match is a part of `t`, a text that starts at byte offset `offset`. -/
def Occurs (m : Match) (offset : Nat) (t : Text) : Prop :=
  ∃ a b, t = a ++ m.text ++ b ∧ m.start = offset + width a ∧ m.stop = m.start + width m.text

theorem Occurs.cons {m : Match} {offset : Nat} {t : Text} {c : Char}
    (h : m.Occurs (offset + c.utf8Size) t) : m.Occurs offset (c :: t) := by
  obtain ⟨a, b, rfl, hstart, hstop⟩ := h
  refine ⟨c :: a, b, rfl, ?_, hstop⟩
  rw [hstart, width_cons]
  omega

theorem allFrom_occurs {length? : Option Char → Text → Option Nat} {before : Option Char}
    {skip offset : Nat} {t : Text} {m : Match} (h : m ∈ allFrom length? before skip offset t) :
    m.Occurs offset t := by
  induction t generalizing before skip offset with
  | nil =>
    cases skip with
    | succ skip => simp [allFrom] at h
    | zero =>
      rw [allFrom] at h
      split at h
      · rw [List.mem_singleton.mp h]
        exact ⟨[], [], rfl, rfl, rfl⟩
      · simp at h
  | cons c t ih =>
    cases skip with
    | succ skip => exact (ih h).cons
    | zero =>
      rw [allFrom] at h
      split at h
      · rename_i n hn
        rcases List.mem_cons.mp h with rfl | h
        · exact ⟨[], (c :: t).drop n, (List.take_append_drop n (c :: t)).symm, rfl, rfl⟩
        · exact (ih h).cons
      · exact (ih h).cons

theorem le_start_of_mem_allFrom {length? : Option Char → Text → Option Nat} {before : Option Char}
    {skip offset : Nat} {t : Text} {m : Match} (h : m ∈ allFrom length? before skip offset t) :
    offset ≤ m.start := by
  obtain ⟨a, b, -, hstart, -⟩ := allFrom_occurs h
  omega

theorem allFrom_starts (length? : Option Char → Text → Option Nat) (before : Option Char)
    (skip offset : Nat) (t : Text) :
    (allFrom length? before skip offset t).Pairwise fun a b => a.start < b.start := by
  induction t generalizing before skip offset with
  | nil =>
    cases skip with
    | succ skip => simp [allFrom]
    | zero =>
      rw [allFrom]
      split
      · exact List.pairwise_singleton _ _
      · exact .nil
  | cons c t ih =>
    cases skip with
    | succ skip => exact ih _ _ _
    | zero =>
      rw [allFrom]
      split
      · refine .cons (fun b hb => ?_) (ih _ _ _)
        have h1 := le_start_of_mem_allFrom hb
        have h2 := c.utf8Size_pos
        show offset < b.start
        omega
      · exact ih _ _ _

end Match

/-- A pattern occurs in a text if it has a match there. -/
theorem Pattern.occursIn_eq_false {p : Pattern} {t : Text} :
    p.occursIn t = false ↔ p.findMatches t false = [] := by
  simp [occursIn, findMatches_eq]

theorem Pattern.findMatches_starts (p : Pattern) (t : Text) (onlyFirst : Bool) :
    (p.findMatches t onlyFirst).Pairwise fun a b => a.start < b.start := by
  rw [findMatches_eq]
  cases onlyFirst
  · exact Match.allFrom_starts ..
  · exact (Match.allFrom_starts ..).sublist (List.take_sublist _ _)

theorem Pattern.findMatches_occurs {p : Pattern} {t : Text} {onlyFirst : Bool} {m : Match}
    (h : m ∈ p.findMatches t onlyFirst) : m.Occurs 0 t := by
  rw [findMatches_eq] at h
  apply Match.allFrom_occurs
  cases onlyFirst
  · exact h
  · exact List.mem_of_mem_take h

end FrontLint
