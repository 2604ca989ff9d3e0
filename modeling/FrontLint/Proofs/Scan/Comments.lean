/-
  FrontLint.Proofs.Scan.Comments — what is found in a comment of a component.

  Nothing is found in a comment, as long as no block opens in it. The tags of blocks are looked for
  without regard to comments, so a block in a comment is read as any other; and the markup behind it is
  read with nothing open, if the block has lines that are skipped. Proved, for the first comment of a
  component that no tag comes before:
  - `FirstComment.commented_residue`: it is a comment of the residue, whatever is masked in it.
  - `pointsAt_uncommented_of_spanPass` / `pointsAt_uncommented_of_linePass`: a pass over the residue
    finds nothing in the comments of the text, unless it has skipped a line.
  - `comment_findings`: so what is found in the comment is found in a block that starts there, or behind
    the skipped lines of one.
  - `block_in_comment`: both happen.
-/

import FrontLint.Proofs.Pass.Hits
import FrontLint.Proofs.Scan.Places
import FrontLint.Proofs.Strip.Markup

namespace FrontLint

open FrontLint.Text FrontLint.Strip

/-! ## Where a candidate points -/

/-- A candidate points at character `i` of a text. -/
def Candidate.PointsAt (c : Candidate) (t : Text) (i : Nat) : Prop :=
  c.finding.line = (t.place i).line + 1 ∧ c.finding.column = (t.place i).column + 1

instance (c : Candidate) (t : Text) (i : Nat) : Decidable (c.PointsAt t i) :=
  inferInstanceAs (Decidable (_ ∧ _))

theorem Candidate.PointsAt.unique {c : Candidate} {t : Text} {i j : Nat} (hi : c.PointsAt t i)
    (hj : c.PointsAt t j) (hi' : i ≤ t.length) (hj' : j ≤ t.length) : i = j := by
  apply place_inj hi' hj'
  have hline := hi.1.symm.trans hj.1
  have hcolumn := hi.2.symm.trans hj.2
  cases h : t.place i
  cases h' : t.place j
  simp_all

/-- The first character of a match, if it is no blank, is that of the line at its column. -/
theorem getElem?_of_blanked {raw cleaned : Text} (h : Blanked raw cleaned) {m : Match}
    (hm : m.Occurs 0 cleaned) {x : Char} {w : Text} (hx : m.text = x :: w) (hb : isBlank x = false) :
    raw[raw.charsBefore m.start]? = some x := by
  obtain ⟨a, b, rfl, hstart, -⟩ := hm
  have hspace : x ≠ ' ' := ne_of_not_blank hb rfl
  rw [hx, List.append_assoc, List.cons_append] at h
  obtain ⟨u, v, rfl, hu, -⟩ := h.split_at hspace rfl
  rw [hstart, Nat.zero_add, hu.width_eq, charsBefore_width_append]
  simp

/-- The character of a text at the place of a column of one of its lines. -/
theorem getElem?_of_place {t raw : Text} {i n j : Nat} {x : Char} (hi : i < t.length)
    (hplace : t.place i = ⟨n, j⟩) (hraw : t.lines[n]? = some raw) (hx : raw[j]? = some x) : t[i]? = some x := by
  have hat : t.at? ⟨n, j⟩ = some x := by
    rw [at?, hraw]
    exact hx
  obtain ⟨k, hk, hplace', -⟩ := exists_place_of_at? hat
  obtain ⟨hlt, -⟩ := List.getElem?_eq_some_iff.mp hk
  rw [place_inj (Nat.le_of_lt hi) (Nat.le_of_lt hlt) (hplace.trans hplace'.symm)]
  exact hk

/-- A pass over the residue as a whole finds nothing in comments. -/
theorem pointsAt_uncommented_of_spanPass {p : SpanPass} {table : RuleTable} {u : Text} {c : Candidate}
    (h : c ∈ p.candidates table u) {x : Char} {w : Text} (hx : c.matched = x :: w) (hb : isBlank x = false) :
    ∃ i, u[i]? = some x ∧ c.PointsAt u i ∧ (commented false u).1[i]? = some false := by
  obtain ⟨r, -, m, hfound, -, rfl⟩ := SpanPass.exists_of_mem_candidates h
  obtain ⟨a, b, hclean, hstart, -⟩ := Pattern.findMatches_occurs hfound
  have hx : m.text = x :: w := hx
  rw [cleaned_eq_cover, hx, List.append_assoc, List.cons_append] at hclean
  obtain ⟨hget, hmark⟩ := cover_split hb hclean
  rw [Nat.zero_add] at hstart
  rw [← hstart] at hget hmark
  exact ⟨_, hget, ⟨rfl, rfl⟩, hmark⟩

/-- A pass over the lines of a markup text finds nothing in comments, as long as it skips no line. -/
theorem pointsAt_uncommented_of_linePass {p : LinePass} {table : RuleTable} {u : Text} {c : Candidate}
    (hmode : p.mode = .markup) (hoffset : p.offset = 0) (h : c ∈ p.candidates table u.lines) {x : Char}
    {w : Text} (hx : c.matched = x :: w) (hb : isBlank x = false) :
    ∃ i, u[i]? = some x ∧ c.PointsAt u i ∧ ¬ p.Skips (u.place i).line ∧
      ((commented false u).1[i]? = some false ∨ ∃ k < (u.place i).line, p.Skips k) := by
  rw [← LinePass.hits_map] at h
  obtain ⟨q, hq, rfl⟩ := List.mem_map.mp h
  obtain ⟨l, r, hl, -, -, -, hfound, -, hc⟩ := LinePass.mem_hits.mp hq
  rw [hc] at hx ⊢
  have hx : q.1.found.text = x :: w := hx
  obtain ⟨s, ⟨first, hrun, hs⟩, hclean⟩ := hl.cleaned_eq
  have hnl := newline_not_mem_of_mem_lines (List.mem_of_getElem? hl.raw_eq)
  have hoccurs := Pattern.findMatches_occurs hfound
  have hget := getElem?_of_blanked (hclean ▸ strip_blanked p.mode l.raw s) hoccurs hx hb
  obtain ⟨hj, -⟩ := List.getElem?_eq_some_iff.mp hget
  obtain ⟨i, hi, hplace, hmarks⟩ := commented_line hl.raw_eq hj
  refine ⟨i, getElem?_of_place hi hplace hl.raw_eq hget, ⟨?_, ?_⟩, ?_, ?_⟩
  · rw [hplace]
    simp [LinePass.candidate, Candidate.finding, hoffset]
  · rw [hplace]
    rfl
  · rw [hplace]
    exact hl.unskipped
  · by_cases hfirst : first = 0
    · left
      rw [hfirst, List.drop_zero, hmode] at hs
      rw [hmode, strip_markup hnl, hs] at hclean
      obtain ⟨a, b, heq, hstart, -⟩ := hoccurs
      rw [hclean, hx, List.append_assoc, List.cons_append] at heq
      rw [hmarks, hstart, Nat.zero_add]
      exact (cover_split hb heq).2
    · right
      have hle := hrun.le
      refine ⟨first - 1, ?_, hrun.starts.resolve_left hfirst⟩
      rw [hplace]
      show first - 1 < l.index
      omega

/-! ## The first comment -/

/-- A comment of a text, around `c`. Nothing opens a comment before it and no tag of a block stands
before it. -/
structure FirstComment (t p c q : Text) : Prop where
  text_eq : t = p ++ (opener ++ (c ++ (closer ++ q)))
  no_opener : ¬ opener <:+: p
  no_tag : ∀ (kind : BlockKind) (o : Nat), Block.openLength? kind.tag (p.drop o) = none
  no_closer : ¬ closer <:+: c

namespace FirstComment

variable {t p c q : Text}

theorem length_le (h : FirstComment t p c q) : p.length + 4 + (c.length + 3) ≤ t.length := by
  rw [h.text_eq]
  simp only [List.length_append, show opener.length = 4 from rfl, show closer.length = 3 from rfl]
  omega

/-- Bodies start behind the opener of the comment. -/
theorem lt_start (h : FirstComment t p c q) {b : BlockKind × Block.Span} (hb : b ∈ Component.spans t) :
    p.length + 4 < b.2.start := by
  obtain ⟨o, hblock⟩ := Component.blockSpans_closes b.1 t (Component.mem_blockSpans_of_mem_spans hb)
  have hfence := Component.fenced_of_mem_spans hb
  have hpos := hfence.start_pos
  apply Classical.byContradiction
  intro hle
  by_cases hbefore : b.2.start ≤ p.length
  · -- The tag lies before the comment as a whole.
    have hplace := hblock.place_le
    have hopen := hblock.opens
    rw [h.text_eq, List.drop_append_of_le_length (by omega)] at hopen
    have := Block.openLength?_of_append hopen (by rw [List.length_drop]; omega)
    rw [h.no_tag b.1 o] at this
    cases this
  · -- It ends in the opener, which has no `>`.
    have hgt := hfence.gt_before
    have hopener : ∀ k < 4, opener[k]? ≠ some '>' := by decide
    rw [h.text_eq, List.getElem?_append_right (by omega),
      List.getElem?_append_left (by rw [show opener.length = 4 from rfl]; omega)] at hgt
    exact hopener _ (by omega) hgt

theorem residue_opener (h : FirstComment t p c q) :
    (Component.split t).residue.take (p.length + 4) = p ++ opener := by
  have htake : t.take (p.length + 4) = p ++ opener := by
    rw [h.text_eq, ← List.append_assoc]
    exact List.take_left' (by rw [List.length_append]; rfl)
  rw [← htake]
  refine List.ext_getElem? fun i => ?_
  by_cases hi : i < p.length + 4
  · have hout : ¬ ∃ b ∈ Component.spans t, b.2.Holds i := by
      rintro ⟨b, hb, hholds⟩
      have := h.lt_start hb
      have := hholds.1
      omega
    rw [List.getElem?_take_of_lt hi, List.getElem?_take_of_lt hi, Component.residue_getElem?]
    simp only [hout, if_false, Option.map_id_fun', id_eq]
  · rw [List.getElem?_take_eq_none (by omega), List.getElem?_take_eq_none (by omega)]

/-- Masking puts no closing mark anywhere. -/
theorem closer_of_residue {j : Nat} (h : closer <+: (Component.split t).residue.drop j) :
    closer <+: t.drop j := by
  rw [List.prefix_iff_getElem?] at h ⊢
  intro k hk
  have hx := h k hk
  have hblank : ∀ k (hk : k < closer.length), closer[k] ≠ ' ' ∧ closer[k] ≠ '\n' := by decide
  obtain ⟨hspace, hnl⟩ := hblank k hk
  rw [List.getElem?_drop, Component.residue_getElem?] at hx
  obtain ⟨y, hy, hxy⟩ := Option.map_eq_some_iff.mp hx
  rw [List.getElem?_drop, hy]
  split at hxy
  · unfold Block.blankChar at hxy
    split at hxy
    · exact absurd hxy.symm hnl
    · exact absurd hxy.symm hspace
  · rw [hxy]

/-- The comment is closed in the residue where it is closed in the text, or later. -/
theorem closer_at_end (h : FirstComment t p c q) {j : Nat} (hj : j ≤ c.length)
    (hclose : closer <+: (Component.split t).residue.drop (p.length + 4 + j)) : j = c.length := by
  have htext : t.drop (p.length + 4 + j) = c.drop j ++ (closer ++ q) := by
    rw [h.text_eq, ← List.append_assoc, ← List.drop_drop,
      List.drop_left' (by rw [List.length_append]; rfl), List.drop_append_of_le_length hj]
  have hpre := closer_of_residue hclose
  rw [htext] at hpre
  apply Classical.byContradiction
  intro hne
  have hnonempty : c.drop j ≠ [] := fun he => by
    have := List.drop_eq_nil_iff.mp he
    omega
  exact h.no_closer ((closer_prefix_of_append hnonempty hpre).isInfix.trans (List.drop_suffix j c).isInfix)

/-- The comment is a comment of the residue, whatever is masked in it. -/
theorem commented_residue (h : FirstComment t p c q) {i : Nat} (h1 : p.length ≤ i)
    (h2 : i < p.length + 4 + (c.length + 3)) :
    (commented false (Component.split t).residue).1[i]? = some true := by
  generalize hR : (Component.split t).residue = R
  have hlen : R.length = t.length := hR ▸ Component.length_residue t
  have hsize := h.length_le
  have hu : ((R.drop (p.length + 4)).take (c.length + 3)).length = c.length + 3 := by
    rw [List.length_take, List.length_drop]
    omega
  have hsplit : R = p ++ (opener ++ ((R.drop (p.length + 4)).take (c.length + 3) ++
      (R.drop (p.length + 4)).drop (c.length + 3))) := by
    rw [List.take_append_drop, ← List.append_assoc, ← h.residue_opener, hR, List.take_append_drop]
  rw [hsplit]
  refine commented_of_opener h.no_opener (fun j hj => ?_) h1 (by omega)
  have hjlen := hj.length_le
  rw [List.length_drop, hu, show closer.length = 3 from rfl] at hjlen
  have hpre : closer <+: R.drop (p.length + 4 + j) := by
    rw [← List.drop_drop]
    refine hj.trans ?_
    rw [List.drop_take]
    exact List.take_prefix _ _
  have := h.closer_at_end (by omega) (hR ▸ hpre)
  omega

end FirstComment

/-! ## The scan -/

namespace Scanner

variable {s : Scanner} {file : SourceFile} {fileClass : FileClass} {f : Candidate} {x : Char} {w : Text}

/-- What is found in a block, if it starts with no blank, is found in its body. -/
theorem holds_of_mem_blockCandidates {mode : Mode} {b : BlockKind × Block.Span}
    (hb : b ∈ Component.spans file.text)
    (hf : f ∈ s.blockCandidates file mode fileClass (Block.ofSpan file.text b.2)) (hx : f.matched = x :: w)
    (hblank : isBlank x = false) :
    ∃ i, file.text[i]? = some x ∧ f.PointsAt file.text i ∧ b.2.Holds i := by
  obtain ⟨h1, h2, h3⟩ := Component.spans_bounds hb
  obtain ⟨l, r, m, hraw, hcleaned, hm, rfl⟩ := LinePass.exists_of_mem_candidates hf
  have hget := getElem?_of_blanked hcleaned hm hx hblank
  have hat : (Block.ofSpan file.text b.2).at? ⟨(Block.ofSpan file.text b.2).startLine + l.index,
      l.raw.charsBefore m.start⟩ = some x := by
    rw [Block.at?, if_pos (Nat.le_add_right _ _), Nat.add_sub_cancel_left, Text.at?, hraw]
    exact hget
  obtain ⟨i, y, hy, -, hplace, ⟨-, rfl⟩ | ⟨hholds, rfl⟩⟩ := Block.exists_of_ofSpan_at? h1 (by omega) hat
  · cases hblank
  · refine ⟨i, hy, ⟨?_, ?_⟩, hholds⟩
    · rw [hplace]
      rfl
    · rw [hplace]
      rfl

theorem bodyLines?_eq_some {d : Block} {part : Nat × Nat} :
    bodyLines? d = some part ↔ part = (d.startLine + 1, d.endLine - 1) ∧ d.startLine + 1 < d.endLine - 1 := by
  unfold bodyLines?
  split
  · rename_i h
    simp [h, eq_comm]
  · rename_i h
    simp [h]

theorem bodyLines?_ofSpan {t : Text} {s : Block.Span} {k : Nat} (h1 : (t.place s.start).line < k)
    (h2 : k < (t.place s.closeEnd).line) :
    bodyLines? (Block.ofSpan t s) = some ((t.place s.start).line + 1, (t.place s.closeEnd).line) := by
  refine bodyLines?_eq_some.mpr ⟨rfl, ?_⟩
  show (t.place s.start).line + 1 < (t.place s.closeEnd).line
  omega

/-- The lines of the markup that are skipped are those between the first and the last line of a block. -/
theorem skips_iff {t : Text} {p : LinePass} (hp : p.skips = (Component.split t).blocks.filterMap bodyLines?)
    {k : Nat} : p.Skips k ↔
      ∃ b ∈ Component.spans t, (t.place b.2.start).line < k ∧ k < (t.place b.2.closeEnd).line := by
  unfold LinePass.Skips
  rw [hp]
  constructor
  · rintro ⟨part, hpart, h1, h2⟩
    obtain ⟨d, hd, hbody⟩ := List.mem_filterMap.mp hpart
    obtain ⟨b, hb, rfl⟩ := Component.exists_span_of_mem_blocks hd
    obtain ⟨rfl, -⟩ := bodyLines?_eq_some.mp hbody
    exact ⟨b, hb, h1, h2⟩
  · rintro ⟨b, hb, h1, h2⟩
    refine ⟨_, List.mem_filterMap.mpr ⟨Block.ofSpan t b.2, ?_, bodyLines?_ofSpan h1 h2⟩, h1, h2⟩
    rw [Component.blocks_split]
    exact List.mem_map.mpr ⟨b, Component.mem_blockSpans.mpr hb, rfl⟩

/-- Block `b` lays open character `i`: the character stands in its body, or behind lines of it that are
skipped. -/
def LaysOpen (t : Text) (b : Block.Span) (i : Nat) : Prop :=
  b.start ≤ i ∧ (b.Holds i ∨ ∃ first stop, bodyLines? (Block.ofSpan t b) = some (first, stop) ∧
    stop ≤ (t.place i).line)

/-- What is found in a component, if it starts with no blank, stands in no comment of the residue, or a
block lays it open. -/
theorem uncommented_or_laysOpen (hf : f ∈ s.componentCandidates file fileClass) (hx : f.matched = x :: w)
    (hblank : isBlank x = false) :
    ∃ i, i < file.text.length ∧ f.PointsAt file.text i ∧
      ((commented false (Component.split file.text).residue).1[i]? = some false ∨
        ∃ b ∈ Component.spans file.text, LaysOpen file.text b.2 i) := by
  have hbreaks := Component.breaks_residue file.text
  have hlt : ∀ {i : Nat}, (Component.split file.text).residue[i]? = some x → i < file.text.length := by
    intro i hget
    obtain ⟨hi, -⟩ := List.getElem?_eq_some_iff.mp hget
    rwa [Component.length_residue] at hi
  have hpoints : ∀ {i : Nat}, f.PointsAt (Component.split file.text).residue i → f.PointsAt file.text i := by
    intro i hi
    rwa [Candidate.PointsAt, place_congr hbreaks] at hi
  have hblock : ∀ mode, ∀ d ∈ (Component.split file.text).blocks, f ∈ s.blockCandidates file mode fileClass d →
      ∃ i, i < file.text.length ∧ f.PointsAt file.text i ∧
        ∃ b ∈ Component.spans file.text, LaysOpen file.text b.2 i := by
    intro mode d hd hf
    obtain ⟨b, hb, rfl⟩ := Component.exists_span_of_mem_blocks hd
    obtain ⟨i, hget, hat, hholds⟩ := holds_of_mem_blockCandidates hb hf hx hblank
    obtain ⟨hi, -⟩ := List.getElem?_eq_some_iff.mp hget
    exact ⟨i, hi, hat, b, hb, hholds.1, .inl hholds⟩
  simp only [componentCandidates, List.mem_append, List.mem_flatMap, or_assoc] at hf
  rcases hf with ⟨d, hd, hf⟩ | ⟨d, hd, hf⟩ | hf | hf
  · obtain ⟨i, hi, hat, hopen⟩ := hblock .script d (List.mem_append_left _ hd) hf
    exact ⟨i, hi, hat, .inr hopen⟩
  · obtain ⟨i, hi, hat, hopen⟩ := hblock .style d (List.mem_append_right _ hd) hf
    exact ⟨i, hi, hat, .inr hopen⟩
  · obtain ⟨i, hget, hat, hunskipped, hmark | ⟨k, hk, hskip⟩⟩ :=
      pointsAt_uncommented_of_linePass rfl rfl hf hx hblank
    · exact ⟨i, hlt hget, hpoints hat, .inl hmark⟩
    · obtain ⟨b, hb, hstart, hstop⟩ := (skips_iff rfl).mp hskip
      rw [place_congr hbreaks] at hunskipped hk
      refine ⟨i, hlt hget, hpoints hat, .inr ⟨b, hb, ?_, .inr ⟨_, _, bodyLines?_ofSpan hstart hstop, ?_⟩⟩⟩
      · exact Nat.le_of_lt (lt_of_line_lt (Nat.lt_trans hstart hk))
      · apply Classical.byContradiction
        intro hlt
        exact hunskipped ((skips_iff rfl).mpr ⟨b, hb, Nat.lt_trans hstart hk, Nat.lt_of_not_le hlt⟩)
  · obtain ⟨i, hget, hat, hmark⟩ := pointsAt_uncommented_of_spanPass hf hx hblank
    exact ⟨i, hlt hget, hpoints hat, .inl hmark⟩

/-- What is found in the first comment of a component, from a match that starts with no blank, is laid
open by a block that starts in the comment. -/
theorem comment_findings (s : Scanner) (path : String) {t p c q : Text} (h : FirstComment t p c q)
    {f : Candidate} (hf : f ∈ s.candidates ⟨path, t, .component⟩) {x : Char} {w : Text}
    (hx : f.matched = x :: w) (hblank : isBlank x = false) {i : Nat} (hi : p.length ≤ i)
    (hi' : i < p.length + 4 + (c.length + 3)) (hat : f.PointsAt t i) :
    ∃ b ∈ Component.spans t, p.length + 4 < b.2.start ∧ LaysOpen t b.2 i := by
  have hlen := h.length_le
  obtain ⟨j, hj, hat', hcase⟩ := uncommented_or_laysOpen hf hx hblank
  obtain rfl : j = i := hat'.unique hat (Nat.le_of_lt hj) (show i ≤ t.length by omega)
  rcases hcase with hmark | ⟨b, hb, hopen⟩
  · have hin : (commented false (Component.split t).residue).1[j]? = some true := h.commented_residue hi hi'
    have hmark : (commented false (Component.split t).residue).1[j]? = some false := hmark
    rw [hin] at hmark
    cases hmark
  · exact ⟨b, hb, h.lt_start hb, hopen⟩

/-- A script in a comment. -/
theorem comment_findings_script :
    let pattern : Pattern := ⟨"eval", .ofRegex (.text (Text.ofString "eval"))⟩
    let s : Scanner := ⟨⟨[.ofLine "no-eval" pattern], .none⟩, ⟨[], [], []⟩⟩
    let t := Text.ofString "<!--<script>eval(x)</script>-->"
    FirstComment t [] (Text.ofString "<script>eval(x)</script>") [] ∧
      ∃ f ∈ s.candidates ⟨"a.svelte", t, .component⟩, f.matched = Text.ofString "eval" ∧ f.PointsAt t 12 ∧
        ∃ b ∈ Component.spans t, 4 < b.2.start ∧ LaysOpen t b.2 12 := by
  intro pattern s t
  have hspans : Component.spans t = [(.script, ⟨12, 19, 28⟩)] := by
    rw [Component.spans_of_found (l := [(.script, ⟨12, 19, 28⟩)]) (by decide +kernel) (by decide)]
    decide
  have hfirst : FirstComment t [] (Text.ofString "<script>eval(x)</script>") [] :=
    ⟨by decide, by decide, by simp [Block.openLength?], by decide +kernel⟩
  have hfound : ∃ f ∈ s.candidates ⟨"a.svelte", t, .component⟩, f.matched = Text.ofString "eval" ∧
      f.PointsAt t 12 := by
    simp only [candidates, candidatesAs, candidatesIn, componentCandidates, Component.split, hspans]
    decide +kernel
  obtain ⟨f, hf, hmatched, hat⟩ := hfound
  exact ⟨hfirst, f, hf, hmatched, hat,
    comment_findings s "a.svelte" hfirst hf hmatched (by decide) (by decide) (by decide) hat⟩

/-- A block in a comment is read, and the markup behind its skipped lines is read as if there was no
comment. -/
theorem block_in_comment :
    let pattern : Pattern := ⟨"eval", .ofRegex (.text (Text.ofString "eval"))⟩
    let s : Scanner := ⟨⟨[.ofLine "no-eval" pattern], .none⟩, ⟨[], [], []⟩⟩
    let within := Text.ofString "<!--<script>eval(x)</script>-->"
    let behind := Text.ofString "<!--<script>\n\n\n</script>\neval-->"
    (FirstComment within [] (Text.ofString "<script>eval(x)</script>") [] ∧
      ∃ f ∈ s.scan ⟨"a.svelte", within, .component⟩,
        f.line = 1 ∧ f.column = 13 ∧ f.matched = Text.ofString "eval") ∧
    (FirstComment behind [] (Text.ofString "<script>\n\n\n</script>\neval") [] ∧
      ∃ f ∈ s.scan ⟨"a.svelte", behind, .component⟩,
        f.line = 5 ∧ f.column = 1 ∧ f.matched = Text.ofString "eval") := by
  intro pattern s within behind
  have hwithin : Component.spans within = [(.script, ⟨12, 19, 28⟩)] := by
    rw [Component.spans_of_found (l := [(.script, ⟨12, 19, 28⟩)]) (by decide +kernel) (by decide)]
    decide
  have hbehind : Component.spans behind = [(.script, ⟨12, 15, 24⟩)] := by
    rw [Component.spans_of_found (l := [(.script, ⟨12, 15, 24⟩)]) (by decide +kernel) (by decide)]
    decide
  refine ⟨⟨⟨by decide, by decide, by simp [Block.openLength?], by decide +kernel⟩, ?_⟩,
    ⟨by decide, by decide, by simp [Block.openLength?], by decide +kernel⟩, ?_⟩
  · simp only [scan, candidates, candidatesAs, candidatesIn, componentCandidates, Component.split, hwithin]
    decide +kernel
  · simp only [scan, candidates, candidatesAs, candidatesIn, componentCandidates, Component.split, hbehind]
    decide +kernel

end Scanner

end FrontLint
