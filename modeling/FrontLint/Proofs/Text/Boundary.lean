/-
  FrontLint.Proofs.Text.Boundary — byte offsets on character boundaries.

  A boundary is an offset at which some number of characters end, so boundaries and these numbers are in
  the same order (`byteOffset_lt`, `lt_of_byteOffset_lt`). Proved:
  - `lineCol_byteOffset`: the line and column of a boundary are the place of the character behind it.
  - `lineCol_identifies`: a later boundary has a later line and column, and a boundary can be read back
    from its line and column.
  - `slice?_eq_some_iff`: between two boundaries in order, and only there, stands a part of the text.
-/

import FrontLint.Proofs.Text.Offset

namespace FrontLint

/-- `p` comes before `q` when a text is read. -/
def LineCol.Before (p q : LineCol) : Prop := p.line < q.line ∨ p.line = q.line ∧ p.column < q.column

namespace Text

variable {t : Text} {i j n : Nat}

/-! ## Boundaries by characters -/

theorem isBoundary_iff : t.IsBoundary n ↔ ∃ i, i ≤ t.length ∧ t.byteOffset i = n := by
  constructor
  · rintro ⟨a, b, rfl, rfl⟩
    exact ⟨a.length, by simp, byteOffset_append_length a b⟩
  · rintro ⟨i, -, hi⟩
    exact ⟨t.take i, t.drop i, (List.take_append_drop i t).symm, hi⟩

theorem isBoundary_byteOffset (t : Text) (i : Nat) : t.IsBoundary (t.byteOffset i) :=
  ⟨t.take i, t.drop i, (List.take_append_drop i t).symm, rfl⟩

instance (t : Text) (n : Nat) : Decidable (t.IsBoundary n) :=
  decidable_of_iff (t.byteOffset (t.charsBefore n) = n) <| by
    rw [isBoundary_iff]
    constructor
    · intro h
      exact ⟨t.charsBefore n, charsBefore_le_length t n, h⟩
    · rintro ⟨i, hi, rfl⟩
      rw [charsBefore_byteOffset hi]

theorem byteOffset_le (t : Text) (h : i ≤ j) : t.byteOffset i ≤ t.byteOffset j := width_take_le t h

theorem byteOffset_lt (h : i < j) (hj : j ≤ t.length) : t.byteOffset i < t.byteOffset j := by
  apply Classical.byContradiction
  intro hle
  have hback := charsBefore_mono t (Nat.le_of_not_lt hle)
  rw [charsBefore_byteOffset hj, charsBefore_byteOffset (by omega)] at hback
  omega

theorem lt_of_byteOffset_lt (h : t.byteOffset i < t.byteOffset j) : i < j := by
  apply Classical.byContradiction
  intro hle
  have := t.byteOffset_le (Nat.le_of_not_lt hle)
  omega

@[simp] theorem byteOffset_length (t : Text) : t.byteOffset t.length = width t := by
  rw [byteOffset, List.take_length]

theorem byteOffset_le_width (t : Text) (i : Nat) : t.byteOffset i ≤ width t := by
  have hsplit := congrArg width (List.take_append_drop i t)
  rw [width_append] at hsplit
  rw [byteOffset]
  omega

/-! ## Line and column of a boundary -/

theorem lineCol_byteOffset (hi : i ≤ t.length) :
    t.lineCol (t.byteOffset i) = ⟨(t.place i).line + 1, (t.place i).column + 1⟩ := by
  rw [lineCol_eq_place, charsBefore_byteOffset hi]

theorem lineCol_before (h : i < j) (hj : j ≤ t.length) :
    (t.lineCol (t.byteOffset i)).Before (t.lineCol (t.byteOffset j)) := by
  rw [lineCol_byteOffset (by omega), lineCol_byteOffset hj]
  have hplace := place_lt h hj
  simp only [LineCol.Before]
  omega

/-- Line and column `p` lead back to byte offset `n`: it is reached over the lines above, each with its
newline, and the characters before `p` on its own line. -/
structure LeadsTo (t : Text) (p : LineCol) (n : Nat) : Prop where
  line_pos : 1 ≤ p.line
  line_le : p.line ≤ (LineIndex.ofText t).lineCount
  column_pos : 1 ≤ p.column
  exists_line : ∃ raw, t.lines[p.line - 1]? = some raw ∧ p.column - 1 ≤ raw.length ∧
    width (ended (t.lines.take (p.line - 1))) + width (raw.take (p.column - 1)) = n

theorem leadsTo_lineCol (hi : i ≤ t.length) : t.LeadsTo (t.lineCol (t.byteOffset i)) (t.byteOffset i) := by
  have hline := lines_append_getElem? (t.take i) (t.drop i)
  rw [List.take_append_drop] at hline
  have hcount : newlines (t.take i) + 1 ≤ (LineIndex.ofText t).lineCount := by
    have hle := newlines_take_le_self t i
    rw [LineIndex.lineCount, LineIndex.size_starts_ofText]
    omega
  rw [lineCol_byteOffset hi]
  refine ⟨Nat.le_add_left 1 _, hcount, Nat.le_add_left 1 _, _, hline, ?_, ?_⟩
  · simp [place]
  · have hcut := congrArg width (take_eq_ended_append t i)
    rw [width_append] at hcut
    simp only [place, Nat.add_sub_cancel, List.take_left]
    exact hcut.symm

/-- Boundaries are told apart by line and column: a later one has a later line and column, and each is
reached again from its own. -/
theorem lineCol_identifies (t : Text) :
    (∀ a b, t.IsBoundary a → t.IsBoundary b → a < b → (t.lineCol a).Before (t.lineCol b)) ∧
      ∀ n, t.IsBoundary n → t.LeadsTo (t.lineCol n) n := by
  constructor
  · intro a b ha hb hab
    obtain ⟨i, -, rfl⟩ := isBoundary_iff.mp ha
    obtain ⟨j, hj, rfl⟩ := isBoundary_iff.mp hb
    exact lineCol_before (lt_of_byteOffset_lt hab) hj
  · intro n hn
    obtain ⟨i, hi, rfl⟩ := isBoundary_iff.mp hn
    exact leadsTo_lineCol hi

/-- The two boundaries of a newline between wide characters, and the end behind an empty line. -/
theorem lineCol_identifies_empty_line :
    let t := ofString "é\nü\n"
    (t.IsBoundary 2 ∧ t.IsBoundary 3 ∧ (t.lineCol 2).Before (t.lineCol 3)) ∧
      t.IsBoundary 6 ∧ t.lineCol 6 = ⟨3, 1⟩ ∧ t.LeadsTo (t.lineCol 6) 6 := by
  intro t
  have h2 : t.IsBoundary 2 := by decide
  have h3 : t.IsBoundary 3 := by decide
  have h6 : t.IsBoundary 6 := by decide
  exact ⟨⟨h2, h3, (lineCol_identifies t).1 2 3 h2 h3 (by decide)⟩, h6, by decide, (lineCol_identifies t).2 6 h6⟩

/-! ## The part between two offsets -/

/-- The part of a text from byte offset `start` up to `stop`. There is none if the offsets are in the wrong
order, if one is past the end or if one lies inside a character. -/
def slice? (t : Text) (start stop : Nat) : Option Text :=
  if start ≤ stop ∧ t.IsBoundary start ∧ t.IsBoundary stop then some (t.slice start stop) else none

theorem slice_byteOffset (hi : i ≤ t.length) (hj : j ≤ t.length) :
    t.slice (t.byteOffset i) (t.byteOffset j) = (t.take j).drop i := by
  rw [slice, charsBefore_byteOffset hi, charsBefore_byteOffset hj]

theorem slice?_byteOffset (hij : i ≤ j) (hj : j ≤ t.length) :
    t.slice? (t.byteOffset i) (t.byteOffset j) = some ((t.take j).drop i) := by
  rw [slice?, if_pos ⟨t.byteOffset_le hij, t.isBoundary_byteOffset i, t.isBoundary_byteOffset j⟩,
    slice_byteOffset (by omega) hj]

theorem slice?_eq_some_iff {start stop : Nat} {part : Text} :
    t.slice? start stop = some part ↔ ∃ i j, i ≤ j ∧ j ≤ t.length ∧ t.byteOffset i = start ∧
      t.byteOffset j = stop ∧ part = (t.take j).drop i := by
  constructor
  · intro h
    unfold slice? at h
    split at h
    · rename_i hin
      obtain ⟨hle, hstart, hstop⟩ := hin
      obtain ⟨i, hi, rfl⟩ := isBoundary_iff.mp hstart
      obtain ⟨j, hj, rfl⟩ := isBoundary_iff.mp hstop
      have hij : i ≤ j := by
        apply Classical.byContradiction
        intro hlt
        have := byteOffset_lt (Nat.lt_of_not_le hlt) hi
        omega
      rw [slice_byteOffset hi hj] at h
      exact ⟨i, j, hij, hj, rfl, rfl, (Option.some.inj h).symm⟩
    · cases h
  · rintro ⟨i, j, hij, hj, rfl, rfl, rfl⟩
    exact slice?_byteOffset hij hj

end Text

end FrontLint
