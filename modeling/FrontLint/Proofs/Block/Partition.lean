/-
  FrontLint.Proofs.Block.Partition — where the characters of a component go when it is split.

  Blanking keeps lines and columns, so the residue and every block can be laid over the text: the
  residue as it is, a block from its first line on (`Block.at?`). Proved:
  - `mask_getElem?`: masking blanks the bodies and nothing else.
  - `ofSpan_at?_place` / `eq_space_of_ofSpan_at?`: a block shows its body and blanks the rest.
  - `split_partitions`: each character is shown once, in the block of its body or in the residue.
-/

import FrontLint.Proofs.Block.Merge
import FrontLint.Proofs.Text.Offset
import Mathlib.Data.List.Nodup

namespace FrontLint.Block

open FrontLint.Text

/-! ## Masking -/

/-- Place `i` lies in the body of `s`. -/
def Span.Holds (s : Span) (i : Nat) : Prop := s.start ≤ i ∧ i < s.stop

instance (s : Span) (i : Nat) : Decidable (s.Holds i) := inferInstanceAs (Decidable (_ ∧ _))

def blankChar (c : Char) : Char := if c = '\n' then '\n' else ' '

theorem blankChar_eq_newline {c : Char} : blankChar c = '\n' ↔ c = '\n' := by
  unfold blankChar
  split <;> simp [*]

theorem maskFrom_getElem? {spans : List Span} {i : Nat} {u : Text}
    (hsep : spans.Pairwise fun a b => a.stop ≤ b.start)
    (hin : ∀ s ∈ spans, i ≤ s.start ∧ s.start ≤ s.stop ∧ s.stop ≤ i + u.length) (j : Nat) :
    (maskFrom i u spans)[j]? =
      (u[j]?).map fun c => if ∃ s ∈ spans, s.Holds (i + j) then blankChar c else c := by
  induction spans generalizing i u j with
  | nil => simp [maskFrom]
  | cons s rest ih =>
    obtain ⟨hfirst, hsep⟩ := List.pairwise_cons.mp hsep
    obtain ⟨h1, h2, h3⟩ := hin s List.mem_cons_self
    have hrest : ∀ r ∈ rest, s.stop ≤ r.start ∧ r.start ≤ r.stop ∧
        r.stop ≤ s.stop + (u.drop (s.stop - i)).length := by
      intro r hr
      obtain ⟨h4, h5, h6⟩ := hin r (List.mem_cons_of_mem _ hr)
      have := hfirst r hr
      rw [List.length_drop]
      omega
    have hlen : (u.take (s.start - i)).length = s.start - i := by
      rw [List.length_take]
      omega
    have hbody : (maskText ((u.take (s.stop - i)).drop (s.start - i))).length = s.stop - s.start := by
      simp only [maskText, List.length_map, List.length_drop, List.length_take]
      omega
    have hnone : ∀ k, k < s.stop → ¬ ∃ r ∈ rest, r.Holds k := by
      rintro k hk ⟨r, hr, hle, -⟩
      have := hfirst r hr
      omega
    rw [maskFrom]
    by_cases hj : j < s.start - i
    · rw [List.append_assoc, List.getElem?_append_left (by omega), List.getElem?_take_of_lt hj]
      have hno : ¬ ∃ r ∈ s :: rest, r.Holds (i + j) := by
        rintro ⟨r, hr, hh⟩
        rcases List.mem_cons.mp hr with rfl | hr
        · have := hh.1
          omega
        · exact hnone (i + j) (by omega) ⟨r, hr, hh⟩
      simp only [hno, if_false, Option.map_id']
    by_cases hj' : j < s.stop - i
    · rw [List.getElem?_append_left (by rw [List.length_append]; omega),
        List.getElem?_append_right (by omega), hlen]
      have hyes : ∃ r ∈ s :: rest, r.Holds (i + j) := ⟨s, List.mem_cons_self, by omega, by omega⟩
      have hu : ((u.take (s.stop - i)).drop (s.start - i))[j - (s.start - i)]? = u[j]? := by
        rw [List.getElem?_drop, show s.start - i + (j - (s.start - i)) = j by omega,
          List.getElem?_take_of_lt hj']
      simp only [maskText, List.getElem?_map, hu, hyes, if_true]
      rfl
    · rw [List.getElem?_append_right (by rw [List.length_append]; omega), List.length_append, hlen,
        hbody, ih hsep hrest, List.getElem?_drop,
        show s.stop - i + (j - (s.start - i + (s.stop - s.start))) = j by omega,
        show s.stop + (j - (s.start - i + (s.stop - s.start))) = i + j by omega]
      have hiff : (∃ r ∈ s :: rest, r.Holds (i + j)) ↔ ∃ r ∈ rest, r.Holds (i + j) := by
        constructor
        · rintro ⟨r, hr, hh⟩
          rcases List.mem_cons.mp hr with rfl | hr
          · have := hh.2
            omega
          · exact ⟨r, hr, hh⟩
        · rintro ⟨r, hr, hh⟩
          exact ⟨r, List.mem_cons_of_mem _ hr, hh⟩
      simp only [hiff]

/-- Masking blanks the bodies and nothing else. -/
theorem mask_getElem? {t : Text} {spans : List Span} (hsep : spans.Pairwise fun a b => a.stop ≤ b.start)
    (hin : ∀ s ∈ spans, s.start ≤ s.stop ∧ s.stop ≤ t.length) (i : Nat) :
    (mask t spans)[i]? = (t[i]?).map fun c => if ∃ s ∈ spans, s.Holds i then blankChar c else c := by
  have h := maskFrom_getElem? (i := 0) (u := t) hsep
    (fun s hs => ⟨Nat.zero_le _, (hin s hs).1, by have := (hin s hs).2; omega⟩) i
  simpa [mask] using h

theorem breaks_mask {t : Text} {spans : List Span} (hsep : spans.Pairwise fun a b => a.stop ≤ b.start)
    (hin : ∀ s ∈ spans, s.start ≤ s.stop ∧ s.stop ≤ t.length) : breaks (mask t spans) = breaks t := by
  apply List.ext_getElem?
  intro i
  simp only [breaks, List.getElem?_map, mask_getElem? hsep hin, Option.map_map]
  congr 1
  funext c
  simp only [Function.comp_apply]
  split
  · rw [Bool.eq_iff_iff, beq_iff_eq, beq_iff_eq, blankChar_eq_newline]
  · rfl

/-! ## A block laid over the text -/

/-- The character that a block has at a place of the outer text. -/
def at? (b : Block) (p : LineCol) : Option Char :=
  if b.startLine ≤ p.line then b.text.at? ⟨p.line - b.startLine, p.column⟩ else none

/-- Where the line of place `i` starts. -/
def lineStart (t : Text) (i : Nat) : Nat := i - (lastLine (t.take i)).length

theorem lineStart_add {t : Text} {i : Nat} (hi : i ≤ t.length) :
    lineStart t i + (lastLine (t.take i)).length = i := by
  obtain ⟨a, ha, -, -⟩ := exists_eq_append_lastLine (t.take i)
  have hlen := congrArg List.length ha
  rw [List.length_append, List.length_take] at hlen
  unfold lineStart
  omega

theorem lineStart_getElem? {t : Text} {i j : Nat} (hi : i ≤ t.length)
    (hj : j < (lastLine (t.take i)).length) : t[lineStart t i + j]? = (lastLine (t.take i))[j]? := by
  obtain ⟨a, ha, -, -⟩ := exists_eq_append_lastLine (t.take i)
  have hadd := lineStart_add hi
  have halen : lineStart t i = a.length := by
    have := congrArg List.length ha
    rw [List.length_append, List.length_take] at this
    omega
  calc t[lineStart t i + j]? = (t.take i)[a.length + j]? := by
        rw [halen, List.getElem?_take_of_lt (by omega)]
    _ = (a ++ lastLine (t.take i))[a.length + j]? := by rw [← ha]
    _ = (lastLine (t.take i))[j]? := by
        rw [List.getElem?_append_right (Nat.le_add_right _ _), Nat.add_sub_cancel_left]

theorem breaks_of_not_mem {l : Text} (h : '\n' ∉ l) : breaks l = List.replicate l.length false :=
  List.map_eq_replicate_iff.mpr fun _ hx => beq_eq_false_iff_ne.mpr fun he => h (he ▸ hx)

theorem newline_not_mem_spaces (n : Nat) : '\n' ∉ spaces n := fun h => by simpa using mem_spaces h

theorem take_start_append_body {t : Text} {s : Span} (hs : s.start ≤ s.stop) :
    t.take s.start ++ s.body t = t.take s.stop := by
  have h := List.take_append_drop s.start (t.take s.stop)
  rwa [List.take_take, Nat.min_eq_left hs] at h

theorem length_lines_ofSpan {t : Text} {s : Span} (hs : s.start ≤ s.stop) (hclose : s.stop ≤ s.closeEnd) :
    (lines (ofSpan t s).text).length ≤ (ofSpan t s).endLine - (ofSpan t s).startLine := by
  have hnl : newlines (spaces (lastLine (t.take s.start)).length) = 0 :=
    newlines_eq_zero.mpr (newline_not_mem_spaces _)
  have hbody : newlines (t.take s.start) + newlines (s.body t) ≤ newlines (t.take s.closeEnd) := by
    rw [← newlines_append, take_start_append_body hs]
    exact newlines_take_le t hclose
  rw [length_lines]
  simp only [ofSpan, newlines_append, hnl]
  omega

section OfSpan

variable {t : Text} {s : Span} (hs : s.start ≤ s.stop) (ht : s.stop ≤ t.length)
include hs ht

theorem length_body : (s.body t).length = s.stop - s.start := by
  simp only [Span.body, List.length_drop, List.length_take]
  omega

theorem length_ofSpan_text : lineStart t s.start + (ofSpan t s).text.length = s.stop := by
  have h1 := lineStart_add (t := t) (i := s.start) (by omega)
  have h2 := length_body hs ht
  simp only [ofSpan, List.length_append, length_spaces]
  omega

/-- The lines of a block are those of the text from its first line on. -/
theorem ofSpan_place {j : Nat} (hj : j ≤ (ofSpan t s).text.length) :
    t.place (lineStart t s.start + j) =
      ⟨(ofSpan t s).startLine + ((ofSpan t s).text.place j).line, ((ofSpan t s).text.place j).column⟩ := by
  obtain ⟨a, ha, hlast, hnl⟩ := exists_eq_append_lastLine (t.take s.start)
  have hadd := lineStart_add (t := t) (i := s.start) (by omega)
  have halen : lineStart t s.start = a.length := by
    have := congrArg List.length ha
    rw [List.length_append, List.length_take] at this
    omega
  have hsplit : t = a ++ (lastLine (t.take s.start) ++ s.body t ++ t.drop s.stop) := by
    rw [List.append_assoc, ← List.append_assoc a, ← ha, ← List.append_assoc,
      take_start_append_body hs, List.take_append_drop]
  have hbreaks : breaks (ofSpan t s).text = breaks (lastLine (t.take s.start) ++ s.body t) := by
    have h1 := breaks_of_not_mem (newline_not_mem_spaces (lastLine (t.take s.start)).length)
    have h2 := breaks_of_not_mem (newline_not_mem_lastLine (t.take s.start))
    rw [length_spaces] at h1
    unfold breaks at h1 h2 ⊢
    rw [ofSpan, List.map_append, List.map_append, h1, h2]
  have hlen : (ofSpan t s).text.length = (lastLine (t.take s.start) ++ s.body t).length := by
    simpa [breaks] using congrArg List.length hbreaks
  have hcut : (lastLine (t.take s.start) ++ s.body t ++ t.drop s.stop).place j =
      (lastLine (t.take s.start) ++ s.body t).place j := by
    unfold place
    rw [List.take_append_of_le_length (by omega)]
  calc t.place (lineStart t s.start + j)
      = (a ++ (lastLine (t.take s.start) ++ s.body t ++ t.drop s.stop)).place (a.length + j) := by
        rw [halen, ← hsplit]
    _ = ⟨(ofSpan t s).startLine + ((ofSpan t s).text.place j).line, ((ofSpan t s).text.place j).column⟩ := by
        rw [place_append hlast, hcut, place_congr hbreaks, hnl]
        rfl

theorem ofSpan_getElem? {j : Nat} {x : Char} (h : (ofSpan t s).text[j]? = some x) :
    ∃ y, t[lineStart t s.start + j]? = some y ∧
      (lineStart t s.start + j < s.start ∧ x = ' ' ∧ y ≠ '\n' ∨ s.Holds (lineStart t s.start + j) ∧ x = y) := by
  have hadd := lineStart_add (t := t) (i := s.start) (by omega)
  have hlen := length_ofSpan_text hs ht
  obtain ⟨hj, -⟩ := List.getElem?_eq_some_iff.mp h
  rw [ofSpan] at h
  by_cases hl : j < (lastLine (t.take s.start)).length
  · rw [List.getElem?_append_left (by rw [length_spaces]; exact hl)] at h
    have hline := List.getElem?_eq_getElem hl
    refine ⟨_, (lineStart_getElem? (by omega) hl).trans hline, .inl ⟨by omega, ?_, ?_⟩⟩
    · exact mem_spaces (List.mem_of_getElem? h)
    · intro he
      exact newline_not_mem_lastLine _ (List.mem_of_getElem? (hline.trans (congrArg some he)))
  · rw [List.getElem?_append_right (by rw [length_spaces]; omega), length_spaces, Span.body,
      List.getElem?_drop, List.getElem?_take_of_lt (by omega),
      show s.start + (j - (lastLine (t.take s.start)).length) = lineStart t s.start + j by omega] at h
    exact ⟨x, h, .inr ⟨⟨by omega, by omega⟩, rfl⟩⟩

/-- A block shows its body. -/
theorem ofSpan_at?_place {i : Nat} {c : Char} (hi : t[i]? = some c) (hc : c ≠ '\n') (hb : s.Holds i) :
    (ofSpan t s).at? (t.place i) = some c := by
  obtain ⟨h1, h2⟩ := hb
  have hadd := lineStart_add (t := t) (i := s.start) (by omega)
  have hlen := length_ofSpan_text hs ht
  obtain ⟨j, rfl⟩ : ∃ j, i = lineStart t s.start + j := ⟨i - lineStart t s.start, by omega⟩
  have hj : j < (ofSpan t s).text.length := by omega
  have hget : (ofSpan t s).text[j]? = some c := by
    have hsome := List.getElem?_eq_getElem hj
    obtain ⟨y, hy, ⟨hlt, -⟩ | ⟨-, he⟩⟩ := ofSpan_getElem? hs ht hsome
    · omega
    · rw [hsome, he, ← hy, hi]
  rw [at?, ofSpan_place hs ht (by omega), if_pos (Nat.le_add_right _ _), Nat.add_sub_cancel_left]
  exact at?_place hget hc

/-- What a block has at a place is what the text has there, or a space. -/
theorem exists_of_ofSpan_at? {p : LineCol} {x : Char} (h : (ofSpan t s).at? p = some x) :
    ∃ i y, t[i]? = some y ∧ y ≠ '\n' ∧ t.place i = p ∧ (i < s.start ∧ x = ' ' ∨ s.Holds i ∧ x = y) := by
  unfold at? at h
  split at h
  · rename_i hline
    obtain ⟨j, hj, hplace, hx⟩ := exists_place_of_at? h
    obtain ⟨hlt, -⟩ := List.getElem?_eq_some_iff.mp hj
    have hout : t.place (lineStart t s.start + j) = p := by
      rw [ofSpan_place hs ht (Nat.le_of_lt hlt), hplace]
      simp only [Nat.add_sub_cancel' hline]
    obtain ⟨y, hy, ⟨hlt, hsp, hne⟩ | ⟨hin, rfl⟩⟩ := ofSpan_getElem? hs ht hj
    · exact ⟨_, y, hy, hne, hout, .inl ⟨hlt, hsp⟩⟩
    · exact ⟨_, x, hy, hx, hout, .inr ⟨hin, rfl⟩⟩
  · cases h

/-- A block blanks what is not its body. -/
theorem eq_space_of_ofSpan_at? {i : Nat} (hi : i < t.length) (hb : ¬ s.Holds i) {x : Char}
    (h : (ofSpan t s).at? (t.place i) = some x) : x = ' ' := by
  obtain ⟨k, y, hy, -, hplace, hx⟩ := exists_of_ofSpan_at? hs ht h
  obtain ⟨hk, -⟩ := List.getElem?_eq_some_iff.mp hy
  have hki := place_inj (Nat.le_of_lt hk) (Nat.le_of_lt hi) hplace
  subst hki
  rcases hx with ⟨-, hx⟩ | ⟨hin, -⟩
  · exact hx
  · exact absurd hin hb

end OfSpan

end FrontLint.Block

namespace FrontLint.Component

open FrontLint.Block FrontLint.Text

/-! ## The parts of a component -/

/-- The blocks of a component, scripts first. -/
def blocks (c : Component) : List Block := c.scripts ++ c.styles

/-- The spans of a component in the order of its blocks. -/
def blockSpans (t : Text) : List (BlockKind × Span) :=
  (spans t).filter (·.1 == .script) ++ (spans t).filter (·.1 == .style)

theorem blocks_split (t : Text) : (split t).blocks = (blockSpans t).map fun b => Block.ofSpan t b.2 := by
  simp [blocks, blockSpans, split]

theorem blockSpans_perm (t : Text) : (blockSpans t).Perm (spans t) := by
  have hstyle : (fun b : BlockKind × Span => b.1 == .style) = fun b => !(b.1 == .script) := by
    funext b
    cases b.1 <;> rfl
  rw [blockSpans, hstyle]
  exact List.filter_append_perm _ _

theorem mem_blockSpans {t : Text} {b : BlockKind × Span} : b ∈ blockSpans t ↔ b ∈ spans t :=
  (blockSpans_perm t).mem_iff

theorem exists_span_of_mem_blocks {t : Text} {d : Block} (h : d ∈ (split t).blocks) :
    ∃ b ∈ spans t, d = Block.ofSpan t b.2 := by
  rw [blocks_split] at h
  obtain ⟨b, hb, rfl⟩ := List.mem_map.mp h
  exact ⟨b, mem_blockSpans.mp hb, rfl⟩

theorem blockSpans_nodup (t : Text) : (blockSpans t).Nodup :=
  (blockSpans_perm t).nodup_iff.mpr (spans_nodup t)

/-- The block of a span, among the blocks of all other spans. -/
theorem exists_blocks_eq {t : Text} {b : BlockKind × Span} (hb : b ∈ spans t) :
    ∃ before after, (split t).blocks = before ++ Block.ofSpan t b.2 :: after ∧
      ∀ d ∈ before ++ after, ∃ b' ∈ spans t, b' ≠ b ∧ d = Block.ofSpan t b'.2 := by
  obtain ⟨before, after, hsplit⟩ := List.append_of_mem (mem_blockSpans.mpr hb)
  have hnodup := blockSpans_nodup t
  rw [hsplit] at hnodup
  refine ⟨before.map fun b => Block.ofSpan t b.2, after.map fun b => Block.ofSpan t b.2, ?_, ?_⟩
  · rw [blocks_split, hsplit, List.map_append, List.map_cons]
  · intro d hd
    rw [← List.map_append] at hd
    obtain ⟨b', hb', rfl⟩ := List.mem_map.mp hd
    refine ⟨b', ?_, ?_, rfl⟩
    · rw [← mem_blockSpans, hsplit]
      exact List.mem_append.mpr ((List.mem_append.mp hb').imp id (List.mem_cons_of_mem _))
    · rintro rfl
      exact (List.nodup_cons.mp (List.nodup_middle.mp hnodup)).1 hb'

/-- A place lies in one body at most. -/
theorem holds_unique {t : Text} {i : Nat} {a b : BlockKind × Span} (ha : a ∈ spans t) (hb : b ∈ spans t)
    (hai : a.2.Holds i) (hbi : b.2.Holds i) : a = b := by
  apply Classical.byContradiction
  intro hne
  have h1 := (spans_bounds ha).2.1
  have h2 := (spans_bounds hb).2.1
  obtain ⟨h3, h4⟩ := hai
  obtain ⟨h5, h6⟩ := hbi
  rcases rel_or_rel_of_pairwise (spans_pairwise t) ha hb hne with h | h <;> omega

theorem bodies_pairwise (t : Text) :
    ((spans t).map (·.2)).Pairwise fun a b => a.stop ≤ b.start := by
  rw [List.pairwise_map]
  refine (spans_pairwise t).imp_of_mem ?_
  intro a b ha _ hab
  have := (spans_bounds ha).2.1
  omega

theorem bodies_bounds (t : Text) : ∀ s ∈ (spans t).map (·.2), s.start ≤ s.stop ∧ s.stop ≤ t.length := by
  intro s hs
  obtain ⟨b, hb, rfl⟩ := List.mem_map.mp hs
  obtain ⟨h1, h2, h3⟩ := spans_bounds hb
  exact ⟨h1, by omega⟩

theorem breaks_residue (t : Text) : breaks (split t).residue = breaks t :=
  breaks_mask (bodies_pairwise t) (bodies_bounds t)

theorem length_residue (t : Text) : (split t).residue.length = t.length := by
  simpa [breaks] using congrArg List.length (breaks_residue t)

theorem residue_getElem? (t : Text) (i : Nat) :
    (split t).residue[i]? =
      (t[i]?).map fun c => if ∃ b ∈ spans t, b.2.Holds i then blankChar c else c := by
  have h := mask_getElem? (bodies_pairwise t) (bodies_bounds t) i
  have hiff : (∃ s ∈ (spans t).map (·.2), s.Holds i) ↔ ∃ b ∈ spans t, b.2.Holds i := by
    constructor
    · rintro ⟨s, hs, hh⟩
      obtain ⟨b, hb, rfl⟩ := List.mem_map.mp hs
      exact ⟨b, hb, hh⟩
    · rintro ⟨b, hb, hh⟩
      exact ⟨b.2, List.mem_map.mpr ⟨b, hb, rfl⟩, hh⟩
  simp only [hiff] at h
  exact h

theorem residue_at?_place {t : Text} {i : Nat} {c : Char} (hi : t[i]? = some c) (hc : c ≠ '\n') :
    (split t).residue.at? (t.place i) = some (if ∃ b ∈ spans t, b.2.Holds i then ' ' else c) := by
  have hget := residue_getElem? t i
  have hblank : blankChar c = ' ' := if_neg hc
  rw [hi, Option.map_some, hblank] at hget
  rw [← place_congr (breaks_residue t)]
  apply at?_place hget
  split
  · decide
  · exact hc

theorem length_lines_of_mem_blocks {t : Text} {d : Block} (hd : d ∈ (split t).blocks) :
    d.text.lines.length ≤ d.endLine - d.startLine ∧ d.endLine ≤ t.lines.length := by
  obtain ⟨b, hb, rfl⟩ := exists_span_of_mem_blocks hd
  obtain ⟨h1, h2, h3⟩ := spans_bounds hb
  refine ⟨length_lines_ofSpan h1 h2, ?_⟩
  rw [length_lines]
  exact Nat.succ_le_succ (newlines_take_le_self t b.2.closeEnd)

/-- The residue has the lines of the text. A character in a body is shown by the block of that body
and by nothing else; any other one by the residue and by no block. -/
theorem split_partitions (t : Text) :
    (split t).residue.lines.map List.length = t.lines.map List.length ∧
    (∀ i c, t[i]? = some c → c ≠ '\n' →
      (∀ b ∈ spans t, b.2.Holds i →
        (split t).residue.at? (t.place i) = some ' ' ∧
        ∃ before after, (split t).blocks = before ++ Block.ofSpan t b.2 :: after ∧
          (Block.ofSpan t b.2).at? (t.place i) = some c ∧
          ∀ d ∈ before ++ after, ∀ x, d.at? (t.place i) = some x → x = ' ') ∧
      ((∀ b ∈ spans t, ¬ b.2.Holds i) →
        (split t).residue.at? (t.place i) = some c ∧
        ∀ d ∈ (split t).blocks, ∀ x, d.at? (t.place i) = some x → x = ' ')) ∧
    ∀ d ∈ (split t).blocks, d.text.lines.length ≤ d.endLine - d.startLine ∧
      d.endLine ≤ t.lines.length := by
  have hspace : ∀ b ∈ spans t, ∀ i, i < t.length → ¬ b.2.Holds i →
      ∀ x, (Block.ofSpan t b.2).at? (t.place i) = some x → x = ' ' := by
    intro b hb i hi hout x hx
    obtain ⟨h1, h2, h3⟩ := spans_bounds hb
    exact eq_space_of_ofSpan_at? h1 (by omega) hi hout hx
  refine ⟨lines_map_length_congr (breaks_residue t), ?_, fun d hd => length_lines_of_mem_blocks hd⟩
  intro i c hi hc
  obtain ⟨hlt, -⟩ := List.getElem?_eq_some_iff.mp hi
  have hresidue := residue_at?_place hi hc
  constructor
  · intro b hb hin
    obtain ⟨h1, h2, h3⟩ := spans_bounds hb
    obtain ⟨before, after, hsplit, hothers⟩ := exists_blocks_eq hb
    refine ⟨by rw [hresidue, if_pos ⟨b, hb, hin⟩], before, after, hsplit,
      ofSpan_at?_place h1 (by omega) hi hc hin, ?_⟩
    intro d hd x hx
    obtain ⟨b', hb', hne, rfl⟩ := hothers d hd
    exact hspace b' hb' i hlt (fun hin' => hne (holds_unique hb' hb hin' hin)) x hx
  · intro hout
    refine ⟨?_, fun d hd x hx => ?_⟩
    · rw [hresidue, if_neg]
      rintro ⟨b, hb, hin⟩
      exact hout b hb hin
    · rw [blocks_split] at hd
      obtain ⟨b, hb, rfl⟩ := List.mem_map.mp hd
      have hmem := mem_blockSpans.mp hb
      exact hspace b hmem i hlt (hout b hmem) x hx

/-- A body that starts behind a wide character of its line. -/
theorem split_partitions_wide_line :
    let t := Text.ofString "é<script>ü</script>"
    let s : Span := ⟨9, 10, 19⟩
    t[9]? = some 'ü' ∧ (.script, s) ∈ spans t ∧ s.Holds 9 ∧
      (split t).residue.at? (t.place 9) = some ' ' ∧
      ∃ before after, (split t).blocks = before ++ Block.ofSpan t s :: after ∧
        (Block.ofSpan t s).at? (t.place 9) = some 'ü' ∧
        ∀ d ∈ before ++ after, ∀ x, d.at? (t.place 9) = some x → x = ' ' := by
  intro t s
  have hget : t[9]? = some 'ü' := by decide
  have hfound : found t = [(.script, s)] := by decide +kernel
  have hmem : (.script, s) ∈ spans t := by
    rw [spans_of_found hfound (by decide)]
    decide
  exact ⟨hget, hmem, by decide, ((split_partitions t).2.1 9 'ü' hget (by decide)).1 _ hmem (by decide)⟩

end FrontLint.Component
