/-
  FrontLint.Proofs.Block.Overlay — texts that lie over another one from some line on.

  `Overlays u k t` says that what `u` shows in its lines, `t` has in the lines `k` further down, at
  the same columns, spaces apart. Proved:
  - `overlays_residue` / `overlays_block`: so lie the parts of a component over it.
  - `Overlays.exists_line`: a word without spaces in a line of `u` is in the line of `t` under it.
-/

import FrontLint.Proofs.Block.Partition

namespace FrontLint

open FrontLint.Text

/-- From line `k` of `t` on, `u` shows characters of `t` or spaces. -/
structure Overlays (u : Text) (k : Nat) (t : Text) : Prop where
  lines_le : k + u.lines.length ≤ t.lines.length
  shows : ∀ q x, u.at? q = some x → ∃ y, t.at? ⟨k + q.line, q.column⟩ = some y ∧ (x = ' ' ∨ x = y)

namespace Overlays

theorem refl (t : Text) : Overlays t 0 t := by
  refine ⟨by omega, fun q x h => ⟨x, ?_, .inr rfl⟩⟩
  rwa [Nat.zero_add]

variable {u t : Text} {k : Nat}

/-- The line of `t` under a line of `u`. -/
theorem exists_line (h : Overlays u k t) {i : Nat} {raw : Text} (hraw : u.lines[i]? = some raw) :
    ∃ outer, t.lines[k + i]? = some outer ∧ raw.length ≤ outer.length ∧
      ∀ w j, ' ' ∉ w → w <+: raw.drop j → w <+: outer.drop j := by
  obtain ⟨hi, -⟩ := List.getElem?_eq_some_iff.mp hraw
  have hle := h.lines_le
  have houter := List.getElem?_eq_getElem (show k + i < t.lines.length by omega)
  generalize t.lines[k + i] = outer at houter
  have hget : ∀ (j : Nat) (x : Char), raw[j]? = some x → ∃ y, outer[j]? = some y ∧ (x = ' ' ∨ x = y) := by
    intro j x hx
    obtain ⟨y, hy, hxy⟩ := h.shows ⟨i, j⟩ x (by simp only [at?, hraw, Option.bind_some]; exact hx)
    simp only [at?, houter, Option.bind_some] at hy
    exact ⟨y, hy, hxy⟩
  refine ⟨outer, houter, ?_, ?_⟩
  · apply Classical.byContradiction
    intro hlt
    obtain ⟨y, hy, -⟩ := hget outer.length _ (List.getElem?_eq_getElem (by omega))
    rw [List.getElem?_eq_none (Nat.le_refl _)] at hy
    cases hy
  · intro w j hw hpre
    rw [List.prefix_iff_getElem?] at hpre ⊢
    intro n hn
    have hx := hpre n hn
    rw [List.getElem?_drop] at hx ⊢
    obtain ⟨y, hy, hsp | rfl⟩ := hget (j + n) _ hx
    · exact absurd (hsp ▸ List.getElem_mem hn) hw
    · exact hy

end Overlays

namespace Component

open FrontLint.Block

theorem overlays_residue (t : Text) : Overlays (split t).residue 0 t := by
  have hlines := congrArg List.length (lines_map_length_congr (breaks_residue t))
  simp only [List.length_map] at hlines
  refine ⟨by omega, fun q x h => ?_⟩
  obtain ⟨i, hi, hplace, hx⟩ := exists_place_of_at? h
  rw [residue_getElem?] at hi
  obtain ⟨y, hy, hxy⟩ := Option.map_eq_some_iff.mp hi
  rw [place_congr (breaks_residue t)] at hplace
  rw [Nat.zero_add]
  split at hxy
  · have hne : y ≠ '\n' := fun he => hx (hxy ▸ blankChar_eq_newline.mpr he)
    exact ⟨y, hplace ▸ at?_place hy hne, .inl (hxy ▸ if_neg hne)⟩
  · subst hxy
    exact ⟨y, hplace ▸ at?_place hy hx, .inr rfl⟩

theorem overlays_block {t : Text} {d : Block} (hd : d ∈ (split t).blocks) :
    Overlays d.text d.startLine t := by
  have hlines := length_lines_of_mem_blocks hd
  have hpos : 0 < d.text.lines.length := List.length_pos_iff.mpr (lines_ne_nil _)
  refine ⟨by omega, fun q x h => ?_⟩
  obtain ⟨b, hb, rfl⟩ := exists_span_of_mem_blocks hd
  obtain ⟨h1, h2, h3⟩ := spans_bounds hb
  have hat : (Block.ofSpan t b.2).at? ⟨(Block.ofSpan t b.2).startLine + q.line, q.column⟩ = some x := by
    rw [Block.at?, if_pos (Nat.le_add_right _ _), Nat.add_sub_cancel_left]
    exact h
  obtain ⟨i, y, hy, hne, hplace, hxy⟩ := exists_of_ofSpan_at? h1 (by omega) hat
  exact ⟨y, hplace ▸ at?_place hy hne, hxy.imp And.right And.right⟩

end Component

end FrontLint
