/-
  FrontLint.Proofs.Text.Offset — byte offsets, and the index of line starts.

  A byte offset stands for the number of characters that end at or before it. Proved:
  - `charsBefore_append_width`: the offset at the end of a part counts that part, whatever follows.
  - `byteOffset_charsBefore_le` / `charsBefore_byteOffset`: going to a character and back rounds an
    offset down to a character's start, and changes nothing on such a start.
  - `lineCol_line`: an offset in a line has the column that it has in the line alone.
  - `lineHolds_newlines`: an offset is on the line that has as many newlines before it.
  - `search_of_isCut`: the binary search tells whether a line starts at an offset, and which is the first
    past it.
  - `lineOf_eq_cut`: either way the line is the number of starts up to the offset.
  - `lineOf_ofText`: so it is one more than the number of newlines before the offset.
  - `lineCol_ofText`: line and column by the index are those found by reading the text.
  - `newlinesBelow_eq`: the newlines at byte offsets below an offset are those before it.
  - `lookup_agrees`: so the index answers for every offset as reading the text does.
-/

import FrontLint.Proofs.Text.Place
import Mathlib.Data.List.GetD

namespace FrontLint.Text

/-! ## Widths -/

@[simp] theorem width_nil : width [] = 0 := rfl

@[simp] theorem width_cons (c : Char) (t : Text) : width (c :: t) = c.utf8Size + width t := rfl

@[simp] theorem width_append (a b : Text) : width (a ++ b) = width a + width b := by
  induction a with
  | nil => simp
  | cons c a ih => simp [ih, Nat.add_assoc]

theorem width_take_le (t : Text) {i j : Nat} (h : i ≤ j) : width (t.take i) ≤ width (t.take j) := by
  have hsplit := List.take_append_drop i (t.take j)
  rw [List.take_take, Nat.min_eq_left h] at hsplit
  rw [← hsplit, width_append]
  omega

@[simp] theorem length_spaces (n : Nat) : (spaces n).length = n := List.length_replicate

@[simp] theorem reverse_spaces (n : Nat) : (spaces n).reverse = spaces n := List.reverse_replicate ..

theorem mem_spaces {n : Nat} {c : Char} (h : c ∈ spaces n) : c = ' ' := List.eq_of_mem_replicate h

theorem spaces_add (m n : Nat) : spaces (m + n) = spaces m ++ spaces n :=
  (List.replicate_append_replicate ..).symm

@[simp] theorem width_spaces (n : Nat) : width (spaces n) = n := by
  induction n with
  | zero => rfl
  | succ n ih =>
    have : spaces (n + 1) = ' ' :: spaces n := rfl
    rw [this, width_cons, ih, show ' '.utf8Size = 1 from rfl]
    omega

@[simp] theorem reverse_blank (c : Char) : (blank c).reverse = blank c := reverse_spaces _

@[simp] theorem width_blank (c : Char) : width (blank c) = c.utf8Size := width_spaces _

/-! ## Offsets and character counts -/

theorem charsBefore_le_length (t : Text) (offset : Nat) : t.charsBefore offset ≤ t.length := by
  induction t generalizing offset with
  | nil => exact Nat.le_refl _
  | cons c t ih =>
    unfold charsBefore
    split
    · exact Nat.succ_le_succ (ih _)
    · exact Nat.zero_le _

theorem charsBefore_mono (t : Text) {m n : Nat} (h : m ≤ n) : t.charsBefore m ≤ t.charsBefore n := by
  induction t generalizing m n with
  | nil => exact Nat.le_refl _
  | cons c t ih =>
    rw [charsBefore, charsBefore]
    split
    · rw [if_pos (by omega)]
      exact Nat.succ_le_succ (ih (by omega))
    · exact Nat.zero_le _

theorem charsBefore_append_width (a b : Text) (n : Nat) :
    (a ++ b).charsBefore (width a + n) = a.length + b.charsBefore n := by
  induction a with
  | nil => simp
  | cons c a ih =>
    rw [List.cons_append, charsBefore, width_cons, if_pos (by omega), List.length_cons,
      show c.utf8Size + width a + n - c.utf8Size = width a + n by omega, ih]
    omega

@[simp] theorem charsBefore_zero (t : Text) : t.charsBefore 0 = 0 := by
  cases t with
  | nil => rfl
  | cons c t =>
    have := c.utf8Size_pos
    rw [charsBefore, if_neg (by omega)]

theorem charsBefore_append_of_le {a : Text} {n : Nat} (h : n ≤ width a) (b : Text) :
    (a ++ b).charsBefore n = a.charsBefore n := by
  induction a generalizing n with
  | nil =>
    obtain rfl : n = 0 := Nat.le_zero.mp h
    rw [charsBefore_zero, charsBefore_zero]
  | cons c a ih =>
    rw [width_cons] at h
    rw [List.cons_append, charsBefore, charsBefore, ih (by omega)]

theorem charsBefore_width_append (a b : Text) : (a ++ b).charsBefore (width a) = a.length := by
  simpa using charsBefore_append_width a b 0

theorem charsBefore_byteOffset {t : Text} {i : Nat} (h : i ≤ t.length) :
    t.charsBefore (t.byteOffset i) = i := by
  have := charsBefore_width_append (t.take i) (t.drop i)
  rwa [List.take_append_drop, List.length_take, Nat.min_eq_left h] at this

theorem byteOffset_charsBefore_le (t : Text) (offset : Nat) :
    t.byteOffset (t.charsBefore offset) ≤ offset := by
  unfold byteOffset
  induction t generalizing offset with
  | nil => exact Nat.zero_le _
  | cons c t ih =>
    unfold charsBefore
    split
    · have := ih (offset - c.utf8Size)
      rw [List.take_succ_cons, width_cons]
      omega
    · exact Nat.zero_le _

theorem exists_append_of_getElem? {α : Type} {l : List α} {j : Nat} {a : α} (h : l[j]? = some a) :
    ∃ u v, l = u ++ a :: v ∧ u.length = j := by
  obtain ⟨hj, rfl⟩ := List.getElem?_eq_some_iff.mp h
  refine ⟨l.take j, l.drop (j + 1), ?_, by rw [List.length_take]; omega⟩
  rw [← List.drop_eq_getElem_cons hj, List.take_append_drop]

/-- What stands from place `i` on is the part up to place `j`, and what stands from there on. -/
theorem drop_eq_part_append {α : Type} (l : List α) {i j : Nat} (hij : i ≤ j) :
    l.drop i = (l.take j).drop i ++ l.drop j := by
  have hbehind : l.drop j = (l.drop i).drop (j - i) := by
    rw [List.drop_drop, Nat.add_sub_cancel' hij]
  rw [List.drop_take, hbehind, List.take_append_drop]

@[simp] theorem byteOffset_zero (t : Text) : t.byteOffset 0 = 0 := by
  simp [byteOffset]

theorem byteOffset_cons_succ (c : Char) (t : Text) (i : Nat) :
    byteOffset (c :: t) (i + 1) = c.utf8Size + t.byteOffset i := rfl

@[simp] theorem byteOffset_append_length (a b : Text) : (a ++ b).byteOffset a.length = width a := by
  simp [byteOffset]

/-- Byte offset `n` lies between two characters of a text, or at one of its ends. -/
def IsBoundary (t : Text) (n : Nat) : Prop := ∃ a b, t = a ++ b ∧ width a = n

/-- The character after those that end at or before an offset ends past it. -/
theorem lt_width_of_charsBefore {t a b : Text} {c : Char} {offset : Nat} (ht : t = a ++ c :: b)
    (h : t.charsBefore offset = a.length) : offset < width a + c.utf8Size := by
  subst ht
  apply Classical.byContradiction
  intro hn
  have hk := charsBefore_append_width (a ++ [c]) b (offset - (width a + c.utf8Size))
  rw [List.append_assoc, List.singleton_append, width_append, width_cons, width_nil,
    show width a + (c.utf8Size + 0) + (offset - (width a + c.utf8Size)) = offset by omega, h,
    List.length_append, List.length_singleton] at hk
  omega

theorem slice_eq (a m b : Text) : (a ++ m ++ b).slice (width a) (width a + width m) = m := by
  have h1 : (a ++ m ++ b).charsBefore (width a) = a.length := by
    rw [List.append_assoc]
    exact charsBefore_width_append ..
  have h2 : (a ++ m ++ b).charsBefore (width a + width m) = (a ++ m).length := by
    rw [← width_append]
    exact charsBefore_width_append ..
  rw [slice, h1, h2, List.take_left, List.drop_left]

/-! ## The bytes of a line -/

/-- Line `k` holds byte `b`. The newline behind a line belongs to it, and so does the end of the text to
the last line. -/
structure LineHolds (lines : List Text) (k b : Nat) : Prop where
  lt_length : k < lines.length
  starts : width (ended (lines.take k)) ≤ b
  ends : b < width (ended (lines.take (k + 1)))

theorem width_ended_take_le (lines : List Text) {j k : Nat} (h : j ≤ k) :
    width (ended (lines.take j)) ≤ width (ended (lines.take k)) := by
  obtain ⟨rest, hrest⟩ := List.take_prefix_take_left h (l := lines)
  rw [← hrest, ended_append, width_append]
  exact Nat.le_add_right _ _

/-- An offset in a line, placed in the text. -/
theorem lineCol_line {t line : Text} {k offset : Nat} (h : t.lines[k]? = some line) (ho : offset ≤ width line) :
    t.lineCol (width (ended (t.lines.take k)) + offset) = ⟨k + 1, line.columnAt offset⟩ := by
  obtain ⟨b, ht, -⟩ := exists_append_of_lines_getElem? h
  have hchars : t.charsBefore (width (ended (t.lines.take k)) + offset) =
      (ended (t.lines.take k)).length + line.charsBefore offset := by
    have hwhole := charsBefore_append_width (ended (t.lines.take k)) (line ++ b) offset
    rwa [← ht, charsBefore_append_of_le ho] at hwhole
  rw [lineCol_eq_place, hchars, place_line h (charsBefore_le_length line offset), columnAt]

/-- A byte further on is on the same line or below. -/
theorem LineHolds.mono {lines : List Text} {j k a b : Nat} (ha : LineHolds lines j a)
    (hb : LineHolds lines k b) (h : a ≤ b) : j ≤ k := by
  apply Classical.byContradiction
  intro hlt
  have hle := width_ended_take_le lines (show k + 1 ≤ j by omega)
  have h1 := ha.starts
  have h2 := hb.ends
  omega

theorem LineHolds.unique {lines : List Text} {j k b : Nat} (hj : LineHolds lines j b)
    (hk : LineHolds lines k b) : j = k :=
  Nat.le_antisymm (hj.mono hk (Nat.le_refl _)) (hk.mono hj (Nat.le_refl _))

/-- Two beginnings of a text that are whole lines, as many of them, are the same. -/
theorem eq_of_prefix_of_newlines {t a e : Text} (ha : a <+: t) (he : e <+: t) (ha' : lastLine a = [])
    (he' : lastLine e = []) (h : newlines a = newlines e) : a = e := by
  have hlonger : ∀ {u v : Text}, u <+: v → lastLine u = [] → lastLine v = [] → newlines u = newlines v →
      u = v := by
    rintro u v ⟨x, rfl⟩ hu hv hn
    rw [newlines_append] at hn
    have hx : '\n' ∉ x := newlines_eq_zero.mp (by omega)
    rw [lastLine_append_of_not_mem _ hx, hu, List.nil_append] at hv
    rw [hv, List.append_nil]
  rcases List.prefix_or_prefix_of_prefix ha he with hp | hp
  · exact hlonger hp ha' he' h
  · exact (hlonger hp he' ha' h.symm).symm

/-- What stands before the line of character `n` are the lines above it. -/
theorem take_eq_ended_append (t : Text) (n : Nat) :
    t.take n = ended (t.lines.take (newlines (t.take n))) ++ lastLine (t.take n) := by
  obtain ⟨a, ha, hlast, hnl⟩ := exists_eq_append_lastLine (t.take n)
  have hline := lines_append_getElem? (t.take n) (t.drop n)
  rw [List.take_append_drop] at hline
  obtain ⟨hlt, -⟩ := List.getElem?_eq_some_iff.mp hline
  obtain ⟨b, hb, -⟩ := exists_append_of_lines_getElem? hline
  have hlines : ∀ l ∈ t.lines.take (newlines (t.take n)), '\n' ∉ l :=
    fun l hl => newline_not_mem_of_mem_lines (List.mem_of_mem_take hl)
  have he : a = ended (t.lines.take (newlines (t.take n))) := by
    refine eq_of_prefix_of_newlines (t := t) ?_ ⟨_, hb.symm⟩ hlast (lastLine_ended _) ?_
    · exact List.IsPrefix.trans ⟨_, ha.symm⟩ (List.take_prefix n t)
    · rw [hnl, newlines_ended hlines, List.length_take, Nat.min_eq_left (Nat.le_of_lt hlt)]
  rw [← he, ← ha]

/-- An offset up to the end of a text is on the line that has as many newlines before it. -/
theorem lineHolds_newlines {t : Text} {b : Nat} (hb : b ≤ width t) :
    LineHolds t.lines (newlines (t.take (t.charsBefore b))) b := by
  have hcut := take_eq_ended_append t (t.charsBefore b)
  have hline := lines_append_getElem? (t.take (t.charsBefore b)) (t.drop (t.charsBefore b))
  rw [List.take_append_drop] at hline
  obtain ⟨hlt, -⟩ := List.getElem?_eq_some_iff.mp hline
  have hwidth := congrArg width hcut
  rw [width_append] at hwidth
  have hbefore : width (t.take (t.charsBefore b)) ≤ b := byteOffset_charsBefore_le t b
  refine ⟨hlt, by omega, ?_⟩
  have hsplit := (List.take_append_drop (t.charsBefore b) t).symm
  have hlen : (t.take (t.charsBefore b)).length = t.charsBefore b := by
    rw [List.length_take, Nat.min_eq_left (charsBefore_le_length t b)]
  have hend : b < width (t.take (t.charsBefore b)) +
      width ((t.drop (t.charsBefore b)).takeWhile (· ≠ '\n')) + 1 := by
    rcases hd : t.drop (t.charsBefore b) with _ | ⟨c, r⟩
    · rw [hd, List.append_nil] at hsplit
      rw [← hsplit]
      omega
    · rw [hd] at hsplit
      have hc := lt_width_of_charsBefore hsplit hlen.symm
      by_cases hnl : c = '\n'
      · rw [hnl, show '\n'.utf8Size = 1 from rfl] at hc
        omega
      · rw [List.takeWhile_cons_of_pos (by simpa using hnl), width_cons]
        omega
  rw [List.take_add_one, hline, Option.toList_some, ended_append, ended_cons, width_append, width_append,
    width_append, width_cons, show '\n'.utf8Size = 1 from rfl]
  omega

/-! ## The newlines below an offset -/

/-- How many newlines of a text stand at byte offsets below `offset`. -/
def newlinesBelow (t : Text) (offset : Nat) : Nat :=
  (List.range t.length).countP fun i => t[i]? = some '\n' ∧ t.byteOffset i < offset

theorem newlinesBelow_cons (c : Char) (t : Text) (offset : Nat) :
    newlinesBelow (c :: t) offset =
      (if c = '\n' ∧ 0 < offset then 1 else 0) + t.newlinesBelow (offset - c.utf8Size) := by
  have hlater : ∀ i, byteOffset (c :: t) (i + 1) < offset ↔ t.byteOffset i < offset - c.utf8Size := by
    intro i
    rw [byteOffset_cons_succ]
    omega
  unfold newlinesBelow
  rw [List.length_cons, List.range_succ_eq_map, List.countP_cons, List.countP_map, Nat.add_comm]
  simp [Function.comp_def, hlater]

/-- A newline is one byte, so it stands below an offset if it ends at or before it. -/
theorem newlinesBelow_eq (t : Text) (offset : Nat) :
    t.newlinesBelow offset = newlines (t.take (t.charsBefore offset)) := by
  induction t generalizing offset with
  | nil => rfl
  | cons c t ih =>
    have hpos := c.utf8Size_pos
    rw [newlinesBelow_cons, ih, charsBefore]
    by_cases hle : c.utf8Size ≤ offset
    · rw [if_pos hle, List.take_succ_cons]
      by_cases hc : c = '\n'
      · rw [if_pos ⟨hc, by omega⟩, hc, newlines_cons_newline, Nat.add_comm]
      · rw [if_neg (fun h => hc h.1), newlines_cons_of_ne hc, Nat.zero_add]
    · -- The offset lies in the first character, which is then no newline, or before it.
      have hnone : ¬ (c = '\n' ∧ 0 < offset) := by
        rintro ⟨rfl, h0⟩
        exact hle h0
      have hzero : offset - c.utf8Size = 0 := by omega
      rw [if_neg hnone, if_neg hle, hzero, charsBefore_zero, List.take_zero, List.take_zero]
      rfl

/-! ## Line starts -/

theorem startsAfterNewlines_append (base : Nat) (a b : Text) :
    startsAfterNewlines base (a ++ b) =
      startsAfterNewlines base a ++ startsAfterNewlines (base + width a) b := by
  induction a generalizing base with
  | nil => simp [startsAfterNewlines]
  | cons c a ih =>
    simp only [List.cons_append, startsAfterNewlines, ih, width_cons, Nat.add_assoc]
    split <;> rfl

theorem length_startsAfterNewlines (base : Nat) (t : Text) :
    (startsAfterNewlines base t).length = newlines t := by
  induction t generalizing base with
  | nil => rfl
  | cons c t ih =>
    unfold startsAfterNewlines
    by_cases h : c = '\n'
    · simp [h, ih]
    · simp [h, ih, newlines_cons_of_ne h]

theorem le_of_mem_startsAfterNewlines {base n : Nat} {t : Text} (h : n ∈ startsAfterNewlines base t) :
    n ≤ base + width t := by
  induction t generalizing base with
  | nil => simp [startsAfterNewlines] at h
  | cons c t ih =>
    rw [width_cons]
    unfold startsAfterNewlines at h
    by_cases hc : c = '\n'
    · simp only [hc, if_true, List.mem_cons] at h ⊢
      rcases h with rfl | h
      · omega
      · have := ih h
        omega
    · simp only [hc, if_false] at h
      have := ih h
      omega

/-- A line after the first starts past the first character of the text. -/
theorem lt_of_mem_startsAfterNewlines {base n : Nat} {c : Char} {t : Text}
    (h : n ∈ startsAfterNewlines base (c :: t)) : base + c.utf8Size ≤ n := by
  induction t generalizing base c with
  | nil =>
    unfold startsAfterNewlines at h
    split at h <;> simp [startsAfterNewlines] at h
    omega
  | cons d t ih =>
    rw [startsAfterNewlines] at h
    have later : n ∈ startsAfterNewlines (base + c.utf8Size) (d :: t) → base + c.utf8Size ≤ n := by
      intro h
      have := ih h
      omega
    split at h
    · rcases List.mem_cons.mp h with rfl | h
      · omega
      · exact later h
    · exact later h

theorem startsAfterNewlines_of_not_mem (base : Nat) {t : Text} (h : '\n' ∉ t) :
    startsAfterNewlines base t = [] :=
  List.eq_nil_of_length_eq_zero (by rw [length_startsAfterNewlines, newlines_eq_zero.mpr h])

theorem startsAfterNewlines_pairwise (base : Nat) (t : Text) :
    (base :: startsAfterNewlines base t).Pairwise (· < ·) := by
  induction t generalizing base with
  | nil => exact List.pairwise_singleton _ _
  | cons c t ih =>
    have hpos := c.utf8Size_pos
    refine List.pairwise_cons.mpr ⟨fun n hn => ?_, ?_⟩
    · have := lt_of_mem_startsAfterNewlines hn
      omega
    · unfold startsAfterNewlines
      split
      · exact ih _
      · exact (List.pairwise_cons.mp (ih _)).2

/-- The last line of a text starts where the lines before it end. -/
theorem getElem?_starts_newlines (base : Nat) {a : Text} (ha : lastLine a = []) :
    (base :: startsAfterNewlines base a)[newlines a]? = some (base + width a) := by
  rcases List.eq_nil_or_concat a with rfl | ⟨h, c, rfl⟩
  · simp
  · rw [List.concat_eq_append] at ha ⊢
    have hc : c = '\n' := by
      apply Classical.byContradiction
      intro hn
      rw [lastLine_append_of_not_mem _ (by simpa using Ne.symm hn)] at ha
      simp at ha
    subst hc
    have hn := length_startsAfterNewlines base h
    rw [startsAfterNewlines_append, newlines_append, ← hn]
    simp [startsAfterNewlines, Nat.add_assoc]

end FrontLint.Text

namespace FrontLint.LineIndex

open FrontLint.Text

/-- Each line starts past the one before. -/
def Ascending (ix : LineIndex) : Prop :=
  ∀ i j, i < j → j < ix.starts.size → ix.starts.getD i 0 < ix.starts.getD j 0

/-- The first `n` lines start at or before an offset, and the others past it. -/
structure IsCut (ix : LineIndex) (offset n : Nat) : Prop where
  le_size : n ≤ ix.starts.size
  upTo : ∀ i < n, ix.starts.getD i 0 ≤ offset
  past : ∀ i, n ≤ i → i < ix.starts.size → offset < ix.starts.getD i 0

theorem IsCut.lt_of_le {ix : LineIndex} {offset n i : Nat} (hn : ix.IsCut offset n) (hi : i < ix.starts.size)
    (hle : ix.starts.getD i 0 ≤ offset) : i < n := by
  apply Classical.byContradiction
  intro hnot
  have := hn.past i (Nat.le_of_not_lt hnot) hi
  omega

/-- The search ends at the last line before the cut, which then starts at the offset, or at the cut, and then
no line does. -/
theorem search_of_isCut {ix : LineIndex} {offset n lo hi : Nat} (hix : ix.Ascending) (hn : ix.IsCut offset n)
    (hlo : lo ≤ n) (hhi : n ≤ hi) (hsize : hi ≤ ix.starts.size) :
    (∃ line, ix.search offset lo hi = .found line ∧ line + 1 = n ∧ ix.starts.getD line 0 = offset) ∨
      ix.search offset lo hi = .missing n ∧ ∀ i, lo ≤ i → i < n → ix.starts.getD i 0 ≠ offset := by
  fun_induction search ix offset lo hi with
  | case1 lo hi h mid hmid =>
    have hbelow : mid < n := hn.lt_of_le (by omega) (Nat.le_of_eq hmid)
    -- the line behind it would start at the offset or before it, too
    have hlast : ¬ mid + 1 < n := by
      intro hlt
      have h1 := hix mid (mid + 1) (Nat.lt_succ_self mid) (by omega)
      have h2 := hn.upTo (mid + 1) hlt
      omega
    exact .inl ⟨mid, rfl, by omega, hmid⟩
  | case2 lo hi h mid hne hless ih =>
    have hbelow : mid < n := hn.lt_of_le (by omega) (Nat.le_of_lt hless)
    rcases ih hbelow hhi hsize with hfound | ⟨hmissing, hnone⟩
    · exact .inl hfound
    · refine .inr ⟨hmissing, fun i hi hin => ?_⟩
      by_cases hlater : mid + 1 ≤ i
      · exact hnone i hlater hin
      · rcases Nat.eq_or_lt_of_le (show i ≤ mid by omega) with rfl | hlt
        · exact hne
        · have := hix i mid hlt (by omega)
          omega
  | case3 lo hi h mid hne hnot ih =>
    have hcut : n ≤ mid := by
      apply Classical.byContradiction
      intro hlt
      have := hn.upTo mid (by omega)
      omega
    exact ih hlo hcut (by omega)
  | case4 lo hi h =>
    obtain rfl : lo = n := by omega
    exact .inr ⟨rfl, fun i hi hin => absurd hi (Nat.not_le_of_lt hin)⟩

/-- Whether or not a line starts at an offset, its line is the last one that starts up to there. -/
theorem lineOf_eq_cut {ix : LineIndex} {offset n : Nat} (hix : ix.Ascending) (hn : ix.IsCut offset n) :
    ix.lineOf offset = n := by
  have hsearch := search_of_isCut hix hn (Nat.zero_le n) hn.le_size (Nat.le_refl _)
  rcases hsearch with ⟨line, hfound, hline, -⟩ | ⟨hmissing, -⟩
  · simp only [lineOf, hfound, hline]
  · simp only [lineOf, hmissing]

theorem starts_getD_ofText (t : Text) (i : Nat) :
    (ofText t).starts.getD i 0 = (0 :: startsAfterNewlines 0 t).getD i 0 := by
  simp [ofText]

theorem size_starts_ofText (t : Text) : (ofText t).starts.size = newlines t + 1 := by
  simp [ofText, length_startsAfterNewlines]

theorem ascending_ofText (t : Text) : (ofText t).Ascending := by
  intro i j hij hj
  have hlen : (0 :: startsAfterNewlines 0 t).length = (ofText t).starts.size := by simp [ofText]
  rw [starts_getD_ofText, starts_getD_ofText, List.getD_eq_getElem _ _ (by omega), List.getD_eq_getElem _ _ (by omega)]
  exact List.pairwise_iff_getElem.mp (startsAfterNewlines_pairwise 0 t) i j (by omega) (by omega) hij

/-- Cut a text so that its first part ends at or before an offset and no line of the second part
starts there: the lines are those of the first part. -/
theorem lineOf_append {a b : Text} {offset : Nat} (ha : width a ≤ offset)
    (hb : ∀ n ∈ startsAfterNewlines (width a) b, offset < n) :
    (ofText (a ++ b)).lineOf offset = newlines a + 1 := by
  have hcut : 0 :: startsAfterNewlines 0 (a ++ b) =
      (0 :: startsAfterNewlines 0 a) ++ startsAfterNewlines (width a) b := by
    rw [startsAfterNewlines_append, Nat.zero_add, List.cons_append]
  have hlen : (0 :: startsAfterNewlines 0 a).length = newlines a + 1 := by
    rw [List.length_cons, length_startsAfterNewlines]
  refine lineOf_eq_cut (ascending_ofText _) ⟨?_, ?_, ?_⟩
  · rw [size_starts_ofText, newlines_append]
    omega
  · intro i hi
    rw [starts_getD_ofText, hcut, List.getD_append _ _ _ _ (by omega),
      List.getD_eq_getElem _ _ (by omega)]
    rcases List.mem_cons.mp (List.getElem_mem (l := 0 :: startsAfterNewlines 0 a) (n := i) (by omega))
      with h0 | hm
    · omega
    · have := le_of_mem_startsAfterNewlines hm
      omega
  · intro i hi hlt
    rw [size_starts_ofText, newlines_append, ← length_startsAfterNewlines (width a) b] at hlt
    rw [starts_getD_ofText, hcut, List.getD_append_right _ _ _ _ (by omega),
      List.getD_eq_getElem _ _ (by omega)]
    exact hb _ (List.getElem_mem _)

/-- The line of an offset is one more than the number of newlines that end at or before it. -/
theorem lineOf_ofText (t : Text) (offset : Nat) :
    (ofText t).lineOf offset = newlines (t.take (t.charsBefore offset)) + 1 := by
  have hk := charsBefore_le_length t offset
  have hsplit : t = t.take (t.charsBefore offset) ++ t.drop (t.charsBefore offset) :=
    (List.take_append_drop ..).symm
  have h := @lineOf_append (t.take (t.charsBefore offset)) (t.drop (t.charsBefore offset)) offset
    (byteOffset_charsBefore_le t offset)
  rw [← hsplit] at h
  apply h
  intro n hn
  rcases hd : t.drop (t.charsBefore offset) with _ | ⟨c, r⟩
  · simp [hd, startsAfterNewlines] at hn
  · rw [hd] at hn hsplit
    have h1 := lt_of_mem_startsAfterNewlines hn
    have hlen : (t.take (t.charsBefore offset)).length = t.charsBefore offset := by
      rw [List.length_take, Nat.min_eq_left hk]
    have h2 := lt_width_of_charsBefore hsplit hlen.symm
    omega

/-- The line behind whole lines starts where they end. -/
theorem starts_ofText_getElem? {t a b : Text} (ht : t = a ++ b) (ha : lastLine a = []) :
    (ofText t).starts[newlines a]? = some (width a) := by
  have hget := getElem?_starts_newlines 0 ha
  have hlen : newlines a < (0 :: startsAfterNewlines 0 a).length := by
    rw [List.length_cons, length_startsAfterNewlines]
    omega
  have happ : (0 :: startsAfterNewlines 0 t)[newlines a]? = some (width a) := by
    rw [ht, startsAfterNewlines_append, ← List.cons_append, List.getElem?_append_left hlen, hget, Nat.zero_add]
  simpa [ofText] using happ

/-- Line and column by the index are those found by reading the text. -/
theorem lineCol_ofText (t : Text) (offset : Nat) :
    (ofText t).lineCol t offset = t.lineCol offset := by
  have hk := charsBefore_le_length t offset
  obtain ⟨a, ha, hlast, hnl⟩ := exists_eq_append_lastLine (t.take (t.charsBefore offset))
  have hline : (ofText t).lineOf (t.byteOffset (t.charsBefore offset)) =
      newlines (t.take (t.charsBefore offset)) + 1 := by
    rw [lineOf_ofText, charsBefore_byteOffset hk]
  have hsplit : t = a ++ lastLine (t.take (t.charsBefore offset)) ++ t.drop (t.charsBefore offset) := by
    rw [← ha, List.take_append_drop]
  have hstart : (ofText t).starts.getD (newlines (t.take (t.charsBefore offset))) 0 = width a := by
    rw [List.append_assoc] at hsplit
    rw [← hnl, Array.getD_eq_getD_getElem?, starts_ofText_getElem? hsplit hlast, Option.getD_some]
  have hoff : t.byteOffset (t.charsBefore offset) =
      width a + width (lastLine (t.take (t.charsBefore offset))) := by
    rw [byteOffset, ← width_append, ← ha]
  unfold lineCol Text.lineCol
  simp only [hline, Nat.add_sub_cancel, hstart, LineCol.mk.injEq, true_and]
  rw [hoff]
  have hs := slice_eq a (lastLine (t.take (t.charsBefore offset))) (t.drop (t.charsBefore offset))
  rw [← hsplit] at hs
  rw [hs]

/-- For every offset, in the text or past its end, on a character's start or inside it, the index
gives the line and column that reading the text gives. The line of the offset itself is one more than
the number of newlines at byte offsets below it. -/
theorem lookup_agrees (t : Text) (offset : Nat) :
    (ofText t).lineCol t offset = t.lineCol offset ∧
      (ofText t).lineOf offset = 1 + t.newlinesBelow offset := by
  refine ⟨lineCol_ofText t offset, ?_⟩
  rw [lineOf_ofText, newlinesBelow_eq, Nat.add_comm]

end FrontLint.LineIndex
