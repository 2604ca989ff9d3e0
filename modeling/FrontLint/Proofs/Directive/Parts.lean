/-
  FrontLint.Proofs.Directive.Parts — the directives of a component are those of its parts.

  A body stands behind the `>` of its opening tag, and before the `<` of its closing tag or at the end
  of the text. No directive reaches over either. `readText k t` are the directives of a text with their
  lines, counted from `k`. Proved:
  - `readText_append`: a text cut where no directive reaches over has the directives of the two parts.
  - `mem_readText_maskFrom`: a directive of a text is one of a body, or one of the text with the bodies
    masked.
  - `Component.names_iff`: a component names a rule on a line if one of its parts does there.
-/

import FrontLint.Proofs.Block.Partition
import FrontLint.Proofs.Directive.Reading
import FrontLint.Proofs.Directive.Silence

namespace FrontLint.Directive

open FrontLint.Text FrontLint.Block FrontLint.Component

/-! ## Texts side by side -/

/-- No directive reaches from a text into the next: a foreign character ends the one or starts the
other, or one of them is empty. -/
def Apart (a b : Text) : Prop :=
  (∀ c ∈ a.getLast?, isForeign c = true) ∨ ∀ c ∈ b.head?, isForeign c = true

theorem readAll_append {a b : Text} (h : Apart a b) : readAll 0 (a ++ b) = readAll 0 a ++ readAll 0 b := by
  rcases h with h | h
  · rcases List.eq_nil_or_concat a with rfl | ⟨u, x, rfl⟩
    · rfl
    · have hx : isForeign x = true := h x (by simp)
      rw [List.concat_eq_append, List.append_assoc, List.singleton_append, readAll_cut hx, readAll_cut hx]
      simp [readAll]
  · rcases b with _ | ⟨x, b⟩
    · simp [readAll]
    · have hx : isForeign x = true := h x rfl
      have hskip : readAll 0 (x :: b) = readAll 0 b := readAll_cut hx [] b
      rw [readAll_cut hx, hskip]

/-- The directives of a text with their lines, counted from `k`. -/
def readText (k : Nat) (t : Text) : List (Nat × Directive) :=
  (t.lines.zipIdx k).flatMap fun l => (readAll 0 l.1).map (l.2, ·)

theorem mem_readText {k n : Nat} {t : Text} {d : Directive} :
    (k + n, d) ∈ readText k t ↔ ∃ line, t.lines[n]? = some line ∧ d ∈ readAll 0 line := by
  simp only [readText, List.mem_flatMap, List.mem_map, Prod.mk.injEq]
  constructor
  · rintro ⟨⟨line, i⟩, hl, e, he, rfl, rfl⟩
    obtain ⟨-, hl⟩ := List.mk_mem_zipIdx_iff_le_and_getElem?_sub.mp hl
    rw [Nat.add_sub_cancel_left] at hl
    exact ⟨line, hl, he⟩
  · rintro ⟨line, hl, he⟩
    refine ⟨(line, k + n), List.mk_mem_zipIdx_iff_le_and_getElem?_sub.mpr ⟨by omega, ?_⟩, d, he, rfl, rfl⟩
    rwa [Nat.add_sub_cancel_left]

theorem le_of_mem_readText {k n : Nat} {t : Text} {d : Directive} (h : (n, d) ∈ readText k t) : k ≤ n := by
  simp only [readText, List.mem_flatMap, List.mem_map, Prod.mk.injEq] at h
  obtain ⟨⟨line, i⟩, hl, e, he, rfl, rfl⟩ := h
  exact (List.mk_mem_zipIdx_iff_le_and_getElem?_sub.mp hl).1

theorem readText_of_lines {k : Nat} {t l : Text} {ls : List Text} (h : t.lines = l :: ls) :
    readText k t = (readAll 0 l).map (k, ·) ++
      (ls.zipIdx (k + 1)).flatMap fun l => (readAll 0 l.1).map (l.2, ·) := by
  rw [readText, h, List.zipIdx_cons, List.flatMap_cons]

theorem readText_newline (k : Nat) (t : Text) : readText k ('\n' :: t) = readText (k + 1) t := by
  rw [readText_of_lines (lines_cons_newline t)]
  rfl

theorem readText_space (k : Nat) (t : Text) : readText k (' ' :: t) = readText k t := by
  obtain ⟨l, ls, hl⟩ := exists_lines_eq_cons t
  rw [readText_of_lines (lines_cons_of_ne (by decide) hl), readText_of_lines hl]
  exact congrArg (·.map (k, ·) ++ _) (readAll_spaces_append 1 l)

theorem readText_spaces (k n : Nat) (t : Text) : readText k (spaces n ++ t) = readText k t := by
  induction n with
  | zero => rfl
  | succ n ih => exact (readText_space k (spaces n ++ t)).trans ih

theorem readText_maskText (k : Nat) (v t : Text) :
    readText k (maskText v ++ t) = readText (k + newlines v) t := by
  induction v generalizing k with
  | nil => rfl
  | cons c v ih =>
    by_cases hc : c = '\n'
    · subst hc
      rw [newlines_cons_newline, show k + (newlines v + 1) = k + 1 + newlines v by omega, ← ih]
      exact readText_newline k (maskText v ++ t)
    · rw [newlines_cons_of_ne hc, ← ih, maskText, List.map_cons, if_neg hc]
      exact readText_space k (maskText v ++ t)

theorem head?_of_lines {t l : Text} {ls : List Text} (h : t.lines = l :: ls) {c : Char} (hc : c ∈ l.head?) :
    c ∈ t.head? := by
  rcases t with _ | ⟨x, t⟩
  · cases h
    simp at hc
  · by_cases hx : x = '\n'
    · subst hx
      rw [lines_cons_newline] at h
      obtain ⟨rfl, -⟩ := List.cons.inj h
      simp at hc
    · obtain ⟨m, ms, hm⟩ := exists_lines_eq_cons t
      rw [lines_cons_of_ne hx hm] at h
      obtain ⟨rfl, -⟩ := List.cons.inj h
      exact hc

/-- The directives of two texts side by side. -/
theorem readText_append (k : Nat) {a b : Text} (h : Apart a b) :
    readText k (a ++ b) = readText k a ++ readText (k + newlines a) b := by
  induction hn : newlines a generalizing a k with
  | zero =>
    have ha : '\n' ∉ a := newlines_eq_zero.mp hn
    obtain ⟨l, ls, hl⟩ := exists_lines_eq_cons b
    have hline : Apart a l := h.imp_right fun hb c hc => hb c (head?_of_lines hl hc)
    have hlines : lines a = [a] := by simpa using lines_append_of_not_mem ha (show lines [] = [[]] from rfl)
    rw [readText_of_lines (lines_append_of_not_mem ha hl), readText_of_lines hlines, readText_of_lines hl,
      readAll_append hline]
    simp
  | succ n ih =>
    have hm : '\n' ∈ a := by
      apply Classical.byContradiction
      intro hno
      rw [newlines_eq_zero.mpr hno] at hn
      omega
    obtain ⟨u, v, rfl, hu⟩ := List.eq_append_cons_of_mem hm
    have hv : newlines v = n := by
      rw [newlines_append, newlines_eq_zero.mpr hu, newlines_cons_newline] at hn
      omega
    have hrest : Apart v b := by
      refine h.imp_left fun ha c hc => ha c ?_
      rw [List.getLast?_append, List.getLast?_cons, hc]
      rfl
    have hcut : ∀ w, readText k (u ++ '\n' :: w) = (readAll 0 u).map (k, ·) ++ readText (k + 1) w := by
      intro w
      rw [readText_of_lines (lines_append_of_not_mem hu (lines_cons_newline w)), List.append_nil]
      rfl
    rw [List.append_assoc, List.cons_append, hcut, hcut, ih (k + 1) hrest hv, List.append_assoc,
      show k + (n + 1) = k + 1 + n by omega]

/-! ## Masked bodies -/

theorem body_append_drop {t : Text} {s : Span} (h : s.start ≤ s.stop) :
    s.body t ++ t.drop s.stop = t.drop s.start := by
  rw [Span.body, List.drop_take, ← Nat.add_sub_cancel' h, ← List.drop_drop, Nat.add_sub_cancel_left,
    List.take_append_drop]

theorem maskFrom_nil (i : Nat) (spans : List Span) : maskFrom i [] spans = [] := by
  induction spans generalizing i with
  | nil => rfl
  | cons s rest ih => simp [maskFrom, maskText, ih]

/-- Nothing reaches into a body, or into what is behind the end of the text. -/
theorem apart_before {t : Text} {s : Span} (h : Fenced t s) {i : Nat} {b : Text}
    (hi : i < s.start ∨ b = []) : Apart ((t.drop i).take (s.start - i)) b := by
  rcases hi with hi | rfl
  · left
    intro c hc
    obtain ⟨hlt, -⟩ := List.getElem?_eq_some_iff.mp h.gt_before
    have hlen : ((t.drop i).take (s.start - i)).length = s.start - i := by
      rw [List.length_take, List.length_drop]
      omega
    rw [List.getLast?_eq_getElem?, hlen, List.getElem?_take_of_lt (by omega), List.getElem?_drop,
      show i + (s.start - i - 1) = s.start - 1 by omega, h.gt_before] at hc
    rw [← Option.some.inj hc]
    rfl
  · right
    simp

/-- A directive of a text with bodies in it is one of a body, or one of the text with the bodies
masked. A body at the end of the text may start where the one before it stops. -/
theorem mem_readText_maskFrom {t : Text} {spans : List Span} {i : Nat} (hbodies : ∀ s ∈ spans, Fenced t s)
    (hfirst : ∀ s ∈ spans, i < s.start ∨ i = s.start ∧ t.length ≤ s.start)
    (hsep : spans.Pairwise fun a b => a.stop < b.start ∨ a.stop = b.start ∧ t.length ≤ b.start)
    {m : Nat × Directive} :
    m ∈ readText (newlines (t.take i)) (t.drop i) ↔
      m ∈ readText (newlines (t.take i)) (maskFrom i (t.drop i) spans) ∨
        ∃ s ∈ spans, m ∈ readText (newlines (t.take s.start)) (s.body t) := by
  induction spans generalizing i with
  | nil => simp [maskFrom]
  | cons s rest ih =>
    obtain ⟨hs, hrest⟩ := List.pairwise_cons.mp hsep
    have hfence := hbodies s List.mem_cons_self
    have hfirst := hfirst s List.mem_cons_self
    have hle := hfence.start_le
    have hi : i ≤ s.start := by omega
    have hbody : ((t.drop i).take (s.stop - i)).drop (s.start - i) = s.body t := by
      rw [← List.drop_take, List.drop_drop, Nat.add_sub_cancel' hi]
      rfl
    have hpost : (t.drop i).drop (s.stop - i) = t.drop s.stop := by
      rw [List.drop_drop, Nat.add_sub_cancel' (Nat.le_trans hi hle)]
    have hsplit : t.drop i = (t.drop i).take (s.start - i) ++ (s.body t ++ t.drop s.stop) := by
      rw [body_append_drop hle, ← Nat.add_sub_cancel' hi, ← List.drop_drop, Nat.add_sub_cancel_left,
        List.take_append_drop]
    have hstart : newlines (t.take i) + newlines ((t.drop i).take (s.start - i)) = newlines (t.take s.start) := by
      rw [← newlines_append, ← List.take_add, Nat.add_sub_cancel' hi]
    have hstop : newlines (t.take s.start) + newlines (s.body t) = newlines (t.take s.stop) := by
      rw [← newlines_append, take_start_append_body hle]
    have hbehind : Apart (s.body t) (t.drop s.stop) := by
      right
      intro c hc
      rw [List.head?_drop] at hc
      rw [hfence.lt_behind c hc]
      rfl
    have hempty : t.length ≤ s.start → s.body t = [] ∧ t.drop s.stop = [] := by
      intro hend
      exact List.append_eq_nil_iff.mp ((body_append_drop hle).trans (List.drop_eq_nil_of_le hend))
    have htext : readText (newlines (t.take i)) (t.drop i) =
        readText (newlines (t.take i)) ((t.drop i).take (s.start - i)) ++
          (readText (newlines (t.take s.start)) (s.body t) ++ readText (newlines (t.take s.stop)) (t.drop s.stop)) := by
      have hbefore : Apart ((t.drop i).take (s.start - i)) (s.body t ++ t.drop s.stop) := by
        refine apart_before hfence (hfirst.imp_right fun h => ?_)
        rw [(hempty h.2).1, (hempty h.2).2, List.append_nil]
      conv_lhs => rw [hsplit]
      rw [readText_append _ hbefore, hstart, readText_append _ hbehind, hstop]
    have hmask : readText (newlines (t.take i)) (maskFrom i (t.drop i) (s :: rest)) =
        readText (newlines (t.take i)) ((t.drop i).take (s.start - i)) ++
          readText (newlines (t.take s.stop)) (maskFrom s.stop (t.drop s.stop) rest) := by
      have hbefore : Apart ((t.drop i).take (s.start - i))
          (maskText (s.body t) ++ maskFrom s.stop (t.drop s.stop) rest) := by
        refine apart_before hfence (hfirst.imp_right fun h => ?_)
        rw [(hempty h.2).1, (hempty h.2).2, maskFrom_nil, List.append_nil]
        rfl
      rw [maskFrom, hbody, hpost, List.append_assoc, readText_append _ hbefore, hstart, readText_maskText, hstop]
    have hmore := ih (fun a ha => hbodies a (List.mem_cons_of_mem _ ha)) hs hrest
    rw [htext, hmask]
    simp only [List.mem_append, List.mem_cons, exists_eq_or_imp, hmore]
    grind

end FrontLint.Directive

namespace FrontLint.Component

open FrontLint.Text FrontLint.Block FrontLint.Directive

/-! ## Components -/

/-- A component has a directive on a line if a block or the residue has it there. -/
theorem mem_readText_split {t : Text} {m : Nat × Directive} :
    m ∈ readText 0 t ↔ m ∈ readText 0 (split t).residue ∨
      ∃ b ∈ (split t).blocks, m ∈ readText b.startLine b.text := by
  have hbodies : ∀ s ∈ (spans t).map (·.2), Fenced t s := by
    intro s hs
    obtain ⟨b, hb, rfl⟩ := List.mem_map.mp hs
    exact fenced_of_mem_spans hb
  have hsep : ((spans t).map (·.2)).Pairwise
      fun a b => a.stop < b.start ∨ a.stop = b.start ∧ t.length ≤ b.start := by
    rw [List.pairwise_map]
    exact (spans_pairwise t).imp_of_mem stop_lt_start
  have hmask := mem_readText_maskFrom (i := 0) (m := m) hbodies
    (fun s hs => .inl (hbodies s hs).start_pos) hsep
  have hblock : ∀ s : Span, readText (Block.ofSpan t s).startLine (Block.ofSpan t s).text =
      readText (newlines (t.take s.start)) (s.body t) := fun s => readText_spaces _ _ _
  rw [List.take_zero, List.drop_zero, newlines_nil] at hmask
  rw [hmask, blocks_split]
  refine or_congr Iff.rfl ?_
  simp only [List.mem_map, exists_exists_and_eq_and, hblock, mem_blockSpans]

/-- So it names a rule on a line if one of them does. -/
theorem names_iff {t : Text} {next : Bool} {k : Nat} {id : String} :
    Names t.lines next k id ↔ Names (split t).residue.lines next k id ∨
      ∃ b ∈ (split t).blocks, ∃ j, k = b.startLine + j ∧ Names b.text.lines next j id := by
  have hnames : ∀ (u : Text) (i j : Nat), Names u.lines next j id ↔
      ∃ d, (i + j, d) ∈ readText i u ∧ d.nextLine = next ∧ id ∈ d.ids := by
    intro u i j
    simp only [FrontLint.names_iff, mem_readText]
    grind
  have htext := hnames t 0 k
  have hresidue := hnames (split t).residue 0 k
  rw [Nat.zero_add] at htext hresidue
  rw [htext, hresidue]
  constructor
  · rintro ⟨d, hd, hnext, hid⟩
    rcases mem_readText_split.mp hd with hd | ⟨b, hb, hd⟩
    · exact .inl ⟨d, hd, hnext, hid⟩
    · obtain ⟨j, rfl⟩ := Nat.exists_eq_add_of_le (le_of_mem_readText hd)
      exact .inr ⟨b, hb, j, rfl, (hnames _ _ _).mpr ⟨d, hd, hnext, hid⟩⟩
  · rintro (⟨d, hd, hnext, hid⟩ | ⟨b, hb, j, rfl, hj⟩)
    · exact ⟨d, mem_readText_split.mpr (.inl hd), hnext, hid⟩
    · obtain ⟨d, hd, hnext, hid⟩ := (hnames _ b.startLine _).mp hj
      exact ⟨d, mem_readText_split.mpr (.inr ⟨b, hb, hd⟩), hnext, hid⟩

end FrontLint.Component
