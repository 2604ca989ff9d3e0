/-
  FrontLint.Proofs.Scan.Skips — when it matters that the markup of a component is read without the lines
  between the tags of its blocks.

  In the residue a block is blank up to its closing tag, so there is nothing to find on the lines that
  are skipped, unless that tag is broken over lines and starts on one of them. And a block neither opens
  nor closes a comment, so what is open behind it was open before, but behind skipped lines nothing is.
  Proved:
  - `commented_take_residue`: a comment that is open where a body starts is open through the whole block,
    and no other is.
  - `allBlank_between`: a skipped line is blank, unless the closing tag starts on a skipped line.
  - `skips_immaterial_iff`: skipping changes nothing for any rules just if no block with skipped lines has
    its closing tag start on one of them, or stands in a comment.
  - `skips_material`: both happen.
-/

import FrontLint.Proofs.Block.Partition
import FrontLint.Proofs.Pass.Skipping
import FrontLint.Proofs.Scan.Comments

namespace FrontLint

open FrontLint.Text FrontLint.Strip FrontLint.Block

/-! ## A block in the residue -/

namespace Component

variable {t : Text} {b : BlockKind × Span} {i k : Nat} {raw : Text}

theorem closingTag_of_mem_spans (hb : b ∈ spans t) (hclosed : b.2.stop < b.2.closeEnd) :
    ClosingTag (t.drop b.2.stop) (b.2.closeEnd - b.2.stop) := by
  obtain ⟨o, hblock⟩ := blockSpans_closes b.1 t (mem_blockSpans_of_mem_spans hb)
  rcases hblock.close with ⟨n, hn, hend⟩ | ⟨hstop, hend⟩
  · rw [hend, Nat.add_sub_cancel_left]
    exact closingTag_of_closeLength? hn
  · omega

/-- A block without a closing tag goes to the end of the text. -/
theorem stop_eq_length (hb : b ∈ spans t) (hopen : b.2.closeEnd ≤ b.2.stop) : b.2.stop = t.length := by
  obtain ⟨o, hblock⟩ := blockSpans_closes b.1 t (mem_blockSpans_of_mem_spans hb)
  rcases hblock.close with ⟨n, hn, hend⟩ | ⟨hstop, -⟩
  · have := (closingTag_of_closeLength? hn).two_le
    omega
  · exact hstop

/-- Blocks with their closing tags have no character in common. -/
theorem eq_of_shared {a : BlockKind × Span} (ha : a ∈ spans t) (hb : b ∈ spans t)
    (hai : a.2.start ≤ i ∧ i < a.2.closeEnd) (hbi : b.2.start ≤ i ∧ i < b.2.closeEnd) : a = b := by
  apply Classical.byContradiction
  intro hne
  rcases rel_or_rel_of_pairwise (spans_pairwise t) ha hb hne with h | h <;> omega

theorem isBlank_residue_body (hb : b ∈ spans t) (hi : b.2.Holds i) {c : Char}
    (h : (split t).residue[i]? = some c) : isBlank c = true := by
  rw [residue_getElem?, Option.map_eq_some_iff] at h
  obtain ⟨d, -, hd⟩ := h
  rw [if_pos ⟨b, hb, hi⟩, blankChar] at hd
  rw [← hd]
  split <;> rfl

theorem residue_closingTag (hb : b ∈ spans t) (h1 : b.2.stop ≤ i) (h2 : i < b.2.closeEnd) :
    (split t).residue[i]? = t[i]? := by
  have hstart := (spans_bounds hb).1
  have hno : ¬ ∃ a ∈ spans t, a.2.Holds i := by
    rintro ⟨a, ha, hstart', hstop'⟩
    have hclose := (spans_bounds ha).2.1
    have hab : a = b := eq_of_shared (i := i) ha hb (by omega) (by omega)
    rw [hab] at hstop'
    omega
  rw [residue_getElem?]
  simp [hno]

theorem residue_ne_hyphen (hb : b ∈ spans t) (h1 : b.2.start ≤ i) (h2 : i < b.2.closeEnd) :
    (split t).residue[i]? ≠ some '-' := by
  intro h
  by_cases hi : i < b.2.stop
  · exact absurd (isBlank_residue_body hb ⟨h1, hi⟩ h) (by decide)
  · rw [residue_closingTag hb (by omega) h2] at h
    obtain ⟨m, rfl⟩ := Nat.exists_eq_add_of_le (Nat.le_of_not_lt hi)
    rw [← List.getElem?_drop] at h
    apply (closingTag_of_mem_spans hb (by omega)).no_hyphen
    exact List.mem_of_getElem? (i := m) (by rw [List.getElem?_take_of_lt (by omega), h])

theorem residue_start_ne_gt (hb : b ∈ spans t) (h : b.2.start < b.2.closeEnd) :
    (split t).residue[b.2.start]? ≠ some '>' := by
  intro hgt
  have hle := (spans_bounds hb).1
  rcases Nat.eq_or_lt_of_le hle with he | hlt
  · have hfirst := (closingTag_of_mem_spans hb (by omega)).lt_first
    rw [List.getElem?_drop, Nat.add_zero, ← he] at hfirst
    rw [residue_closingTag hb (by omega) h, hfirst] at hgt
    exact absurd hgt (by decide)
  · exact absurd (isBlank_residue_body hb ⟨Nat.le_refl _, hlt⟩ hgt) (by decide)

/-- A block neither opens nor closes a comment. -/
theorem commented_take_residue (hb : b ∈ spans t) (h1 : b.2.start ≤ i) (h2 : i ≤ b.2.closeEnd) :
    (commented false ((split t).residue.take i)).2 =
      (commented false ((split t).residue.take b.2.start)).2 := by
  have hsplit : (split t).residue.take i =
      (split t).residue.take b.2.start ++ ((split t).residue.drop b.2.start).take (i - b.2.start) := by
    rw [← List.take_add, Nat.add_sub_cancel' h1]
  have hhyphen : '-' ∉ ((split t).residue.drop b.2.start).take (i - b.2.start) := by
    intro hm
    obtain ⟨m, hm⟩ := List.mem_iff_getElem?.mp hm
    rw [List.getElem?_take] at hm
    split at hm
    · rw [List.getElem?_drop] at hm
      exact residue_ne_hyphen hb (by omega) (by omega) hm
    · cases hm
  have hgt : (((split t).residue.drop b.2.start).take (i - b.2.start)).head? ≠ some '>' := by
    intro hh
    rw [List.head?_eq_getElem?, List.getElem?_take] at hh
    split at hh
    · rw [List.getElem?_drop, Nat.add_zero] at hh
      exact residue_start_ne_gt hb (by omega) hh
    · cases hh
  rw [hsplit, commented_append_plain false _ hhyphen hgt]

/-- On a line below the one where it starts, a closing tag has nothing but blanks, up to its end. -/
theorem isBlank_closingTag (hb : b ∈ spans t) (h1 : b.2.stop ≤ i) (h2 : i + 1 < b.2.closeEnd)
    (hline : (t.place b.2.stop).line < (t.place i).line) {c : Char} (h : (split t).residue[i]? = some c) :
    isBlank c = true := by
  obtain ⟨m, rfl⟩ := Nat.exists_eq_add_of_le h1
  rw [residue_closingTag hb h1 (by omega), ← List.getElem?_drop] at h
  refine (closingTag_of_mem_spans hb (by omega)).blank_behind m c (by omega) ?_ h
  have hsplit : newlines (t.take (b.2.stop + m)) =
      newlines (t.take b.2.stop) + newlines ((t.drop b.2.stop).take m) := by
    rw [List.take_add, newlines_append]
  apply Classical.byContradiction
  intro hno
  rw [newlines_eq_zero.mpr hno] at hsplit
  simp only [place] at hline
  omega

/-- The last character of a closed block. -/
theorem residue_closeEnd (hb : b ∈ spans t) (hclosed : b.2.stop < b.2.closeEnd) :
    t[b.2.closeEnd - 1]? = some '>' ∧ (split t).residue[b.2.closeEnd - 1]? = some '>' := by
  have hlast := (closingTag_of_mem_spans hb hclosed).gt_last
  rw [List.getElem?_drop, show b.2.stop + (b.2.closeEnd - b.2.stop - 1) = b.2.closeEnd - 1 by omega] at hlast
  rw [residue_closingTag hb (by omega) (by omega)]
  exact ⟨hlast, hlast⟩

/-- It stands on the last line of the block. -/
theorem line_closeEnd (hb : b ∈ spans t) (hclosed : b.2.stop < b.2.closeEnd) :
    (t.place (b.2.closeEnd - 1)).line = (t.place b.2.closeEnd).line := by
  have hsucc := place_succ (residue_closeEnd hb hclosed).1 (by decide)
  rw [show b.2.closeEnd - 1 + 1 = b.2.closeEnd by omega] at hsucc
  rw [hsucc]

/-! ## The lines of a block -/

/-- The characters of a line of the residue, by their places in the text. -/
theorem exists_of_residue_line (hraw : (split t).residue.lines[k]? = some raw) {j : Nat} {x : Char}
    (hx : raw[j]? = some x) : ∃ i, (split t).residue[i]? = some x ∧ t.place i = ⟨k, j⟩ := by
  obtain ⟨hj, -⟩ := List.getElem?_eq_some_iff.mp hx
  refine ⟨(ended ((split t).residue.lines.take k)).length + j, ?_, ?_⟩
  · rw [getElem?_line hraw hj, hx]
  · rw [← place_congr (breaks_residue t), place_line hraw (Nat.le_of_lt hj)]

theorem exists_of_mem_residue_line (hraw : (split t).residue.lines[k]? = some raw) {x : Char} (hx : x ∈ raw) :
    ∃ i, (split t).residue[i]? = some x ∧ (t.place i).line = k := by
  obtain ⟨j, hj⟩ := List.mem_iff_getElem?.mp hx
  obtain ⟨i, hi, hplace⟩ := exists_of_residue_line hraw hj
  exact ⟨i, hi, by rw [hplace]⟩

theorem exists_line_of_residue {x : Char} (h : (split t).residue[i]? = some x) (hx : x ≠ '\n') :
    ∃ raw, (split t).residue.lines[(t.place i).line]? = some raw ∧ raw[(t.place i).column]? = some x := by
  have hat := at?_place h hx
  rw [place_congr (breaks_residue t), Text.at?, Option.bind_eq_some_iff] at hat
  exact hat

/-- What is open in the residue before a line of a block, below the first, is what is open where its body
starts. -/
theorem openAfter_in_block (hb : b ∈ spans t) (hraw : (split t).residue.lines[k]? = some raw)
    (hstart : (t.place b.2.start).line < k) (hend : k ≤ (t.place b.2.closeEnd).line) :
    openAfter .markup .neutral ((split t).residue.lines.take k) =
      ⟨(commented false ((split t).residue.take b.2.start)).2, false⟩ := by
  have hplace : t.place (ended ((split t).residue.lines.take k)).length = ⟨k, 0⟩ := by
    rw [← place_congr (breaks_residue t)]
    exact place_line hraw (Nat.zero_le _)
  have hfrom : b.2.start ≤ (ended ((split t).residue.lines.take k)).length :=
    Nat.le_of_lt (lt_of_line_lt (by rwa [hplace]))
  have hto : (ended ((split t).residue.lines.take k)).length ≤ b.2.closeEnd := by
    apply Classical.byContradiction
    intro hlt
    have hlen := (ended_append_line hraw).length_le
    rw [List.length_append, length_residue] at hlen
    have hlater := place_lt (Nat.lt_of_not_le hlt) (show _ ≤ t.length by omega)
    rw [hplace] at hlater
    simp only at hlater
    omega
  have hlines : ∀ l ∈ (split t).residue.lines.take k, '\n' ∉ l :=
    fun l hl => newline_not_mem_of_mem_lines (List.mem_of_mem_take hl)
  rw [openAfter_markup hlines, ← commented_take_residue hb hfrom hto, take_ended hraw]

/-- A line between the first and the last of a block is blank in the residue, unless the closing tag
starts on such a line. -/
theorem allBlank_between (hb : b ∈ spans t) (hraw : (split t).residue.lines[k]? = some raw)
    (hstart : (t.place b.2.start).line < k) (hend : k < (t.place b.2.closeEnd).line)
    (htag : b.2.stop < b.2.closeEnd → (t.place b.2.start).line < (t.place b.2.stop).line →
      (t.place b.2.closeEnd).line ≤ (t.place b.2.stop).line) : raw.allBlank = true := by
  rw [allBlank, List.all_eq_true]
  intro x hx
  obtain ⟨i, hi, rfl⟩ := exists_of_mem_residue_line hraw hx
  have hfrom := lt_of_line_lt hstart
  have hto := lt_of_line_lt hend
  by_cases hbody : i < b.2.stop
  · exact isBlank_residue_body hb ⟨Nat.le_of_lt hfrom, hbody⟩ hi
  · have hline : (t.place b.2.stop).line ≤ (t.place i).line := newlines_take_le t (Nat.le_of_not_lt hbody)
    have hupper : (t.place b.2.stop).line ≤ (t.place b.2.start).line := by
      apply Classical.byContradiction
      intro hlt
      have := htag (by omega) (by omega)
      omega
    refine isBlank_closingTag hb (Nat.le_of_not_lt hbody) ?_ (by omega) hi
    apply Classical.byContradiction
    intro hlast
    have hend' := line_closeEnd hb (by omega)
    rw [show b.2.closeEnd - 1 = i by omega] at hend'
    omega

/-- In the residue a block without a closing tag is followed by blank lines only. -/
theorem allBlank_below (hb : b ∈ spans t) (hopen : b.2.closeEnd ≤ b.2.stop)
    (hraw : (split t).residue.lines[k]? = some raw) (hstart : (t.place b.2.start).line < k) :
    raw.allBlank = true := by
  rw [allBlank, List.all_eq_true]
  intro x hx
  obtain ⟨i, hi, rfl⟩ := exists_of_mem_residue_line hraw hx
  obtain ⟨hlt, -⟩ := List.getElem?_eq_some_iff.mp hi
  rw [length_residue, ← stop_eq_length hb hopen] at hlt
  exact isBlank_residue_body hb ⟨Nat.le_of_lt (lt_of_line_lt hstart), hlt⟩ hi

/-- The line on which a closing tag starts, if all of it is in the block. -/
theorem exists_tag_line (hb : b ∈ spans t) (hclosed : b.2.stop < b.2.closeEnd)
    (hstart : (t.place b.2.start).line < (t.place b.2.stop).line)
    (hend : (t.place b.2.stop).line < (t.place b.2.closeEnd).line) :
    ∃ raw, (split t).residue.lines[(t.place b.2.stop).line]? = some raw ∧
      raw[(t.place b.2.stop).column]? = some '<' ∧ '-' ∉ raw := by
  have hfirst := (closingTag_of_mem_spans hb hclosed).lt_first
  rw [List.getElem?_drop, Nat.add_zero, ← residue_closingTag hb (Nat.le_refl _) hclosed] at hfirst
  obtain ⟨raw, hraw, hget⟩ := exists_line_of_residue hfirst (by decide)
  refine ⟨raw, hraw, hget, fun hm => ?_⟩
  obtain ⟨i, hi, hline⟩ := exists_of_mem_residue_line hraw hm
  rw [← hline] at hstart hend
  exact residue_ne_hyphen hb (Nat.le_of_lt (lt_of_line_lt hstart)) (lt_of_line_lt hend) hi

/-- The last line of a block of several lines, up to the end of the closing tag. -/
theorem exists_last_line (hb : b ∈ spans t) (hclosed : b.2.stop < b.2.closeEnd)
    (hstart : (t.place b.2.start).line < (t.place b.2.closeEnd).line) :
    ∃ u v, (split t).residue.lines[(t.place b.2.closeEnd).line]? = some (u ++ '>' :: v) ∧ '-' ∉ u := by
  obtain ⟨raw, hraw, hget⟩ := exists_line_of_residue (residue_closeEnd hb hclosed).2 (by decide)
  obtain ⟨u, v, rfl, hu⟩ := exists_append_of_getElem? hget
  rw [line_closeEnd hb hclosed] at hraw
  refine ⟨u, v, hraw, fun hm => ?_⟩
  obtain ⟨m, hm⟩ := List.mem_iff_getElem?.mp hm
  obtain ⟨hmlt, -⟩ := List.getElem?_eq_some_iff.mp hm
  obtain ⟨i, hi, hplace⟩ := exists_of_residue_line hraw
    (show (u ++ '>' :: v)[m]? = some '-' by rw [List.getElem?_append_left hmlt, hm])
  have hfrom : b.2.start < i := lt_of_line_lt (by rwa [hplace])
  have hto : i < b.2.closeEnd := by
    apply Classical.byContradiction
    intro hle
    obtain ⟨hilt, -⟩ := List.getElem?_eq_some_iff.mp hi
    rw [length_residue] at hilt
    have hlater := place_lt (show b.2.closeEnd - 1 < i by omega) (Nat.le_of_lt hilt)
    rw [hplace, line_closeEnd hb hclosed] at hlater
    simp only at hlater
    omega
  exact residue_ne_hyphen hb (Nat.le_of_lt hfrom) hto hi

end Component

namespace Scanner

variable {t : Text} {b : BlockKind × Span} {k : Nat} {raw : Text}

/-- The pass over the markup of a component, as a scan makes it. -/
def markupPass (path : String) (c : FileClass) (t : Text) : LinePass :=
  { LinePass.whole path .markup c with skips := (Component.split t).blocks.filterMap bodyLines? }

/-- Every line up to the last line of a block is there. -/
theorem exists_residue_line {i : Nat} (h : k ≤ (t.place i).line) :
    ∃ raw, (Component.split t).residue.lines[k]? = some raw := by
  have hlen : k < (Component.split t).residue.lines.length := by
    have hle := newlines_take_le_self t i
    rw [length_lines, newlines_eq_count_breaks, Component.breaks_residue, ← newlines_eq_count_breaks]
    simp only [place] at h
    omega
  exact ⟨_, List.getElem?_eq_getElem hlen⟩

/-! ## When skipping changes nothing -/

/-- The skipped lines of a block do not matter: no comment is open where its body starts, and its closing
tag starts on none of them. -/
def SkipsSafely (t : Text) (s : Span) : Prop :=
  ∀ first stop, bodyLines? (Block.ofSpan t s) = some (first, stop) →
    (commented false ((Component.split t).residue.take s.start)).2 = false ∧
      ¬ (first ≤ (t.place s.stop).line ∧ (t.place s.stop).line < stop)

theorem skipsBlank_markupPass (path : String) (c : FileClass)
    (h : ∀ b ∈ Component.spans t, b.2.stop < b.2.closeEnd → SkipsSafely t b.2) :
    (markupPass path c t).SkipsBlank (Component.split t).residue.lines := by
  intro k raw hskip hraw
  obtain ⟨b, hb, h1, h2⟩ := (skips_iff rfl).mp hskip
  have hbody := bodyLines?_ofSpan h1 h2
  constructor
  · refine Component.allBlank_between hb hraw h1 h2 fun hclosed hlt => ?_
    have := (h b hb hclosed _ _ hbody).2
    omega
  · by_cases hclosed : b.2.stop < b.2.closeEnd
    · left
      obtain ⟨raw', hraw'⟩ := exists_residue_line (t := t) (k := k + 1) h2
      show openAfter .markup .neutral _ = .neutral
      rw [Component.openAfter_in_block hb hraw' (by omega) h2, (h b hb hclosed _ _ hbody).1]
      rfl
    · right
      intro l hl
      obtain ⟨m, hm⟩ := List.mem_iff_getElem?.mp hl
      rw [List.getElem?_drop] at hm
      exact Component.allBlank_below hb (Nat.le_of_not_lt hclosed) hm (by omega)

/-! ## When it does -/

/-- The last line of a closed block is not skipped. -/
theorem not_skips_closeEnd (hb : b ∈ Component.spans t) (hclosed : b.2.stop < b.2.closeEnd) (path : String)
    (c : FileClass) : ¬ (markupPass path c t).Skips (t.place b.2.closeEnd).line := by
  intro hskip
  obtain ⟨a, ha, h1, h2⟩ := (skips_iff rfl).mp hskip
  rw [← Component.line_closeEnd hb hclosed] at h1 h2
  have hbounds := Component.spans_bounds hb
  have hab : a = b := Component.eq_of_shared (i := b.2.closeEnd - 1) ha hb
    ⟨Nat.le_of_lt (lt_of_line_lt h1), lt_of_line_lt h2⟩ (by omega)
  rw [hab, Component.line_closeEnd hb hclosed] at h2
  omega

/-- Behind skipped lines, the end of a closing tag is read with nothing open. So no comment is open where
the body starts, or the tag would not be read without skipping. -/
theorem not_open_of_shows (hb : b ∈ Component.spans t) (hclosed : b.2.stop < b.2.closeEnd)
    (hlines : (t.place b.2.start).line + 1 < (t.place b.2.closeEnd).line) {path : String} {c : FileClass}
    (h : ∀ k j, (markupPass path c t).Shows (Component.split t).residue.lines k j '>' →
      (markupPass path c t).unskipped.Shows (Component.split t).residue.lines k j '>') :
    (commented false ((Component.split t).residue.take b.2.start)).2 = false := by
  obtain ⟨u, v, hraw, hhyphen⟩ := Component.exists_last_line hb hclosed (by omega)
  have habove : (markupPass path c t).Skips ((t.place b.2.closeEnd).line - 1) :=
    (skips_iff rfl).mpr ⟨b, hb, by omega, by omega⟩
  have hopen : (markupPass path c t).OpenAt (Component.split t).residue.lines
      ((t.place b.2.closeEnd).line - 1 + 1) .neutral := .skip habove
  rw [show (t.place b.2.closeEnd).line - 1 + 1 = (t.place b.2.closeEnd).line by omega] at hopen
  have hshown := h _ u.length
    ⟨not_skips_closeEnd hb hclosed path c, _, _, hraw, hopen, by simp, commented_gt false v hhyphen⟩
  obtain ⟨-, raw, s, hraw', hs, -, hmark⟩ := hshown
  obtain rfl : u ++ '>' :: v = raw := Option.some.inj (hraw.symm.trans hraw')
  rw [commented_gt s.inComment v hhyphen, LinePass.openAt_unskipped.mp hs] at hmark
  have hsame := Component.openAfter_in_block hb hraw (by omega) (Nat.le_refl _)
  exact (congrArg State.inComment hsame).symm.trans (Option.some.inj hmark)

/-- The closing tag of a block that stands in no comment starts on no skipped line, or it would be read
without skipping. -/
theorem not_tag_of_shows (hb : b ∈ Component.spans t) (hclosed : b.2.stop < b.2.closeEnd)
    (hcomment : (commented false ((Component.split t).residue.take b.2.start)).2 = false) {path : String}
    {c : FileClass}
    (h : ∀ k j, (markupPass path c t).unskipped.Shows (Component.split t).residue.lines k j '<' →
      (markupPass path c t).Shows (Component.split t).residue.lines k j '<')
    (h1 : (t.place b.2.start).line < (t.place b.2.stop).line) :
    (t.place b.2.closeEnd).line ≤ (t.place b.2.stop).line := by
  apply Classical.byContradiction
  intro hlt
  have h2 := Nat.lt_of_not_le hlt
  obtain ⟨raw, hraw, hget, hhyphen⟩ := Component.exists_tag_line hb hclosed h1 h2
  have hopen := Component.openAfter_in_block hb hraw h1 (Nat.le_of_lt h2)
  obtain ⟨hjlt, -⟩ := List.getElem?_eq_some_iff.mp hget
  have hmark : (commented (openAfter .markup .neutral ((Component.split t).residue.lines.take
      (t.place b.2.stop).line)).inComment raw).1[(t.place b.2.stop).column]? = some false := by
    rw [hopen, hcomment, commented_of_not_mem false hhyphen]
    simp [hjlt]
  have hshown := h _ _ ⟨LinePass.not_skips_unskipped _, raw, _, hraw, LinePass.openAt_unskipped.mpr rfl,
    hget, hmark⟩
  exact hshown.unskipped ((skips_iff rfl).mpr ⟨b, hb, h1, h2⟩)

/-- Skipping the lines between the tags of blocks changes nothing in what is found in the markup, for any
rules, just if each block that has a closing tag skips safely. -/
theorem skips_immaterial_iff (t : Text) :
    (∀ (s : Scanner) (path : String) (c : FileClass),
      Candidate.findings (s.markupCandidates ⟨path, t, .component⟩ c (Component.split t)) =
        (LinePass.whole path .markup c).run s.table (Component.split t).residue.lines) ↔
    ∀ b ∈ Component.spans t, b.2.stop < b.2.closeEnd → SkipsSafely t b.2 := by
  constructor
  · intro h b hb hclosed first stop hbody
    obtain ⟨hpart, hlines⟩ := bodyLines?_eq_some.mp hbody
    obtain ⟨rfl, rfl⟩ := Prod.mk.inj hpart
    obtain ⟨p, hp⟩ : ∃ p, p = markupPass "" ⟨false, false, false, false⟩ t := ⟨_, rfl⟩
    have hrun : ∀ table, p.run table (Component.split t).residue.lines =
        p.unskipped.run table (Component.split t).residue.lines := by
      rw [hp]
      exact fun table => h ⟨table, ⟨[], [], []⟩⟩ "" _
    have hshows := @LinePass.shows_unskipped_iff p _ (by rw [hp]; rfl)
      (fun l hl => newline_not_mem_of_mem_lines hl) hrun
    rw [hp] at hshows
    have hcomment := not_open_of_shows hb hclosed hlines fun k j => (hshows (by decide)).mp
    refine ⟨hcomment, fun ⟨h1, h2⟩ => ?_⟩
    have := not_tag_of_shows hb hclosed hcomment (fun k j => (hshows (by decide)).mpr) h1
    exact absurd h2 (Nat.not_lt.mpr this)
  · intro h s path c
    exact congrArg Candidate.findings (LinePass.candidates_unskipped (skipsBlank_markupPass path c h) s.table)

/-- A closing tag that is broken over lines is found only without skipping, and a comment around a block
is closed by skipping. -/
theorem skips_material :
    let c : FileClass := ⟨false, false, false, true⟩
    let tag : RuleTable := ⟨[.ofLine "tag" ⟨"</script", .ofRegex (.text (ofString "</script"))⟩], .none⟩
    let eval : RuleTable := ⟨[.ofLine "no-eval" ⟨"eval", .ofRegex (.text (ofString "eval"))⟩], .none⟩
    let broken := ofString "<script>\n\n</script\n>"
    let within := ofString "<!--<script>\n\n\n</script>\neval-->"
    let skipping (table : RuleTable) (t : Text) : List Finding :=
      Candidate.findings ((Scanner.mk table ⟨[], [], []⟩).markupCandidates ⟨"a.svelte", t, .component⟩ c
        (Component.split t))
    let reading (table : RuleTable) (t : Text) : List Finding :=
      (LinePass.whole "a.svelte" .markup c).run table (Component.split t).residue.lines
    skipping tag broken = [] ∧
      reading tag broken = [⟨"a.svelte", 3, 1, "tag", .warning, .lint, ofString "</script"⟩] ∧
      skipping eval within = [⟨"a.svelte", 5, 1, "no-eval", .warning, .lint, ofString "eval"⟩] ∧
      reading eval within = [] := by
  intro c tag eval broken within skipping reading
  have hbroken : Component.spans broken = [(.script, ⟨8, 10, 20⟩)] := by
    rw [Component.spans_of_found (l := [(.script, ⟨8, 10, 20⟩)]) (by decide +kernel) (by decide)]
    decide
  have hwithin : Component.spans within = [(.script, ⟨12, 15, 24⟩)] := by
    rw [Component.spans_of_found (l := [(.script, ⟨12, 15, 24⟩)]) (by decide +kernel) (by decide)]
    decide
  simp only [skipping, reading, markupCandidates, Component.split, hbroken, hwithin]
  decide +kernel

end Scanner

end FrontLint
