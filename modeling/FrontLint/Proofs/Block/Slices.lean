/-
  FrontLint.Proofs.Block.Slices — splitting a component by slices of its bytes.

  `splitSlices?` splits a component by the byte offsets of its spans and takes every part of the text with
  `slice?`, which fails for offsets in the wrong order, past the end or inside a character. Proved:
  - `inText_inBytes`: places in order give offsets in order, in the text and on boundaries.
  - `maskSlices?_inBytes` / `ofSlices?_inBytes`: on such offsets no slice fails, and masking and blocks are
    those by characters.
  - `split_slices`: the spans of a component are such offsets, one behind the other, so it can be split.
-/

import FrontLint.Proofs.Block.Partition
import FrontLint.Proofs.Text.Boundary

namespace FrontLint.Block

open FrontLint.Text

/-! ## Slices -/

/-- The byte offset just behind the last newline of a text. -/
def lastLineStart (t : Text) : Nat := (startsAfterNewlines 0 t).getLast?.getD 0

/-- The block of a span given in byte offsets. -/
def ofSlices? (t : Text) (s : Span) : Option Block := do
  let before ← t.slice? 0 s.start
  let lead ← t.slice? (lastLineStart before) s.start
  let body ← t.slice? s.start s.stop
  let through ← t.slice? 0 s.closeEnd
  return { text := spaces lead.length ++ body, startLine := newlines before, endLine := newlines through + 1 }

/-- Masks the bodies of spans given in byte offsets, from offset `pos` on. -/
def maskSlices? (t : Text) (pos : Nat) : List Span → Option Text
  | [] => t.slice? pos (width t)
  | s :: rest => do
    let before ← t.slice? pos s.start
    let body ← t.slice? s.start s.stop
    let behind ← maskSlices? t s.stop rest
    return before ++ maskText body ++ behind

/-- The offsets of a span are in order, in the text and on character boundaries. -/
structure Span.InText (t : Text) (s : Span) : Prop where
  start_le : s.start ≤ s.stop
  stop_le : s.stop ≤ s.closeEnd
  closeEnd_le : s.closeEnd ≤ width t
  start_boundary : t.IsBoundary s.start
  stop_boundary : t.IsBoundary s.stop
  closeEnd_boundary : t.IsBoundary s.closeEnd

variable {t : Text} {s : Span}

theorem inText_inBytes (hs : s.start ≤ s.stop) (hclose : s.stop ≤ s.closeEnd) : (s.inBytes t).InText t :=
  ⟨t.byteOffset_le hs, t.byteOffset_le hclose, t.byteOffset_le_width _, t.isBoundary_byteOffset _,
    t.isBoundary_byteOffset _, t.isBoundary_byteOffset _⟩

theorem slice?_zero_byteOffset {i : Nat} (hi : i ≤ t.length) : t.slice? 0 (t.byteOffset i) = some (t.take i) := by
  have h := slice?_byteOffset (Nat.zero_le i) hi
  rwa [byteOffset_zero, List.drop_zero] at h

/-- Behind whole lines, the last line starts where they end. -/
theorem lastLineStart_append {a b : Text} (ha : lastLine a = []) (hb : '\n' ∉ b) :
    lastLineStart (a ++ b) = width a := by
  have hget := getElem?_starts_newlines 0 ha
  have hlast : (0 :: startsAfterNewlines 0 a).getLast? = some (width a) := by
    rw [List.getLast?_eq_getElem?, List.length_cons, length_startsAfterNewlines, Nat.add_sub_cancel, hget,
      Nat.zero_add]
  rw [List.getLast?_cons] at hlast
  rw [lastLineStart, startsAfterNewlines_append, startsAfterNewlines_of_not_mem _ hb, List.append_nil]
  exact Option.some.inj hlast

theorem slice?_lastLineStart {i : Nat} (hi : i ≤ t.length) :
    t.slice? (lastLineStart (t.take i)) (t.byteOffset i) = some (lastLine (t.take i)) := by
  obtain ⟨a, ha, hlast, -⟩ := exists_eq_append_lastLine (t.take i)
  have hlen : a.length ≤ i := by
    have := congrArg List.length ha
    rw [List.length_append, List.length_take] at this
    omega
  have htake : t.take a.length = a := by
    have hshort := congrArg (List.take a.length) ha
    rwa [List.take_take, Nat.min_eq_left hlen, List.take_left] at hshort
  have hstart : lastLineStart (t.take i) = t.byteOffset a.length := by
    have hbytes := lastLineStart_append hlast (newline_not_mem_lastLine (t.take i))
    rw [← ha] at hbytes
    rw [hbytes, byteOffset, htake]
  have hline : (t.take i).drop a.length = lastLine (t.take i) := by
    have hrest := congrArg (List.drop a.length) ha
    rwa [List.drop_left] at hrest
  rw [hstart, slice?_byteOffset hlen hi, hline]

theorem ofSlices?_inBytes (hs : s.start ≤ s.stop) (hclose : s.stop ≤ s.closeEnd) (ht : s.closeEnd ≤ t.length) :
    ofSlices? t (s.inBytes t) = some (ofSpan t s) := by
  have hbefore : t.slice? 0 (s.inBytes t).start = some (t.take s.start) := slice?_zero_byteOffset (by omega)
  have hlead : t.slice? (lastLineStart (t.take s.start)) (s.inBytes t).start =
      some (lastLine (t.take s.start)) := slice?_lastLineStart (by omega)
  have hbody : t.slice? (s.inBytes t).start (s.inBytes t).stop = some (s.body t) := slice?_byteOffset hs (by omega)
  have hthrough : t.slice? 0 (s.inBytes t).closeEnd = some (t.take s.closeEnd) := slice?_zero_byteOffset ht
  simp only [ofSlices?, hbefore, hlead, hbody, hthrough, Option.bind_eq_bind, Option.bind_some]
  rfl

/-- From place `i` on, where the spans start at or behind it and none overlap, masking by slices is masking
by characters. -/
theorem maskSlices?_inBytes {spans : List Span} {i : Nat} (hi : i ≤ t.length)
    (hsep : spans.Pairwise fun a b => a.stop ≤ b.start)
    (hin : ∀ s ∈ spans, i ≤ s.start ∧ s.start ≤ s.stop ∧ s.stop ≤ t.length) :
    maskSlices? t (t.byteOffset i) (spans.map (·.inBytes t)) = some (maskFrom i (t.drop i) spans) := by
  induction spans generalizing i with
  | nil =>
    have hrest := slice?_byteOffset hi (Nat.le_refl t.length)
    rwa [byteOffset_length, List.take_length] at hrest
  | cons s rest ih =>
    obtain ⟨hfirst, hsep⟩ := List.pairwise_cons.mp hsep
    obtain ⟨h1, h2, h3⟩ := hin s List.mem_cons_self
    have hbefore : t.slice? (t.byteOffset i) (s.inBytes t).start = some ((t.drop i).take (s.start - i)) := by
      rw [← List.drop_take]
      exact slice?_byteOffset h1 (by omega)
    have hbody : t.slice? (s.inBytes t).start (s.inBytes t).stop =
        some (((t.drop i).take (s.stop - i)).drop (s.start - i)) := by
      rw [← List.drop_take, List.drop_drop, Nat.add_sub_cancel' h1]
      exact slice?_byteOffset h2 h3
    have hbehind : maskSlices? t (s.inBytes t).stop (rest.map (·.inBytes t)) =
        some (maskFrom s.stop ((t.drop i).drop (s.stop - i)) rest) := by
      rw [List.drop_drop, Nat.add_sub_cancel' (by omega)]
      exact ih h3 hsep fun r hr => ⟨hfirst r hr, (hin r (List.mem_cons_of_mem _ hr)).2⟩
    simp only [List.map_cons, maskSlices?, hbefore, hbody, hbehind, Option.bind_eq_bind, Option.bind_some]
    rfl

end FrontLint.Block

namespace FrontLint.Component

open FrontLint.Block FrontLint.Text

/-! ## The parts of a component by slices -/

/-- The spans of a component in byte offsets. -/
def byteSpans (t : Text) : List (BlockKind × Span) := (spans t).map fun b => (b.1, b.2.inBytes t)

/-- A component split by slices: the block of each span, and the masked text. -/
def splitSlices? (t : Text) : Option Component := do
  let blocks ← (byteSpans t).mapM fun b => (ofSlices? t b.2).map (b.1, ·)
  let residue ← maskSlices? t 0 ((byteSpans t).map (·.2))
  let ofKind (kind : BlockKind) : List Block := (blocks.filter (·.1 == kind)).map (·.2)
  return { scripts := ofKind .script, styles := ofKind .style, residue }

theorem mapM_eq_some_map {α β : Type} {l : List α} {f : α → Option β} {g : α → β}
    (h : ∀ a ∈ l, f a = some (g a)) : l.mapM f = some (l.map g) := by
  induction l with
  | nil => rfl
  | cons a l ih =>
    rw [List.mapM_cons, h a List.mem_cons_self, ih fun b hb => h b (List.mem_cons_of_mem _ hb)]
    rfl

theorem blocks_byteSpans (t : Text) :
    ((byteSpans t).mapM fun b => (ofSlices? t b.2).map (b.1, ·)) =
      some ((spans t).map fun b => (b.1, Block.ofSpan t b.2)) := by
  rw [byteSpans, List.mapM_map]
  apply mapM_eq_some_map
  intro b hb
  obtain ⟨h1, h2, h3⟩ := spans_bounds hb
  show (ofSlices? t (b.2.inBytes t)).map (b.1, ·) = some (b.1, Block.ofSpan t b.2)
  rw [ofSlices?_inBytes h1 h2 h3, Option.map_some]

theorem mask_byteSpans (t : Text) : maskSlices? t 0 ((byteSpans t).map (·.2)) = some (split t).residue := by
  have h := maskSlices?_inBytes (Nat.zero_le t.length) (bodies_pairwise t)
    fun s hs => ⟨Nat.zero_le _, bodies_bounds t s hs⟩
  rw [byteOffset_zero, List.drop_zero, List.map_map] at h
  rw [byteSpans, List.map_map]
  exact h

/-- The spans of a component are in order, each in the text, on character boundaries and behind the end of
the one before. They end in the text by their characters, so that none of their byte offsets is cut off at its
end. So every slice that splitting takes is there, and every block has a line. -/
theorem split_slices (t : Text) :
    ((byteSpans t).Pairwise fun a b => a.2.start ≤ b.2.start ∧ a.2.closeEnd ≤ b.2.start) ∧
      (∀ b ∈ spans t, b.2.start ≤ b.2.stop ∧ b.2.stop ≤ b.2.closeEnd ∧ b.2.closeEnd ≤ t.length) ∧
      (∀ b ∈ byteSpans t, b.2.InText t) ∧
      splitSlices? t = some (split t) ∧
      ∀ d ∈ (split t).blocks, d.startLine < d.endLine := by
  refine ⟨?_, fun b hb => spans_bounds hb, ?_, ?_, ?_⟩
  · rw [byteSpans, List.pairwise_map]
    refine (spans_pairwise t).imp_of_mem ?_
    intro a b ha _ hab
    obtain ⟨h1, h2, -⟩ := spans_bounds ha
    exact ⟨t.byteOffset_le (by omega), t.byteOffset_le hab⟩
  · intro b hb
    obtain ⟨c, hc, rfl⟩ := List.mem_map.mp hb
    obtain ⟨h1, h2, -⟩ := spans_bounds hc
    exact inText_inBytes h1 h2
  · simp only [splitSlices?, blocks_byteSpans, mask_byteSpans, Option.bind_eq_bind, Option.bind_some,
      List.filter_map, List.map_map]
    rfl
  · intro d hd
    obtain ⟨b, hb, rfl⟩ := exists_span_of_mem_blocks hd
    obtain ⟨h1, h2, -⟩ := spans_bounds hb
    exact Nat.lt_succ_of_le (newlines_take_le t (Nat.le_trans h1 h2))

end FrontLint.Component
