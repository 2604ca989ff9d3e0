/-
  FrontLint.Proofs.Strip.Layout — stripping changes no layout.

  `Blanked raw cleaned` says that `cleaned` is `raw` with some characters replaced by as many spaces
  as they have bytes. Proved:
  - `strip_blanked`: so it is for every line, in every mode and from every state.
  - `Blanked.split_at` / `Blanked.split_around`: what is no space in the cleaned line is the line's
    own, at the same byte offset.
  - `strip_layout`: the line keeps its width, its boundaries between characters and the offsets of
    what is left of it.
  - `startsAfterNewlines_stripLines`: the lines of a stripped text start at the byte offsets at
    which those of the text start.
-/

import FrontLint.Proofs.Text.Offset
import FrontLint.Strip.Run

namespace FrontLint.Strip

open FrontLint.Text

inductive Blanked : Text → Text → Prop
  | nil : Blanked [] []
  | keep (c : Char) {raw cleaned : Text} : Blanked raw cleaned → Blanked (c :: raw) (c :: cleaned)
  | blank (c : Char) {raw cleaned : Text} :
      Blanked raw cleaned → Blanked (c :: raw) (Text.blank c ++ cleaned)

namespace Blanked

theorem width_eq {raw cleaned : Text} (h : Blanked raw cleaned) : width cleaned = width raw := by
  induction h with
  | nil => rfl
  | keep c _ ih => simp [ih]
  | blank c _ ih => simp [ih]

theorem eq_nil {raw : Text} (h : Blanked raw []) : raw = [] := by
  have hw := h.width_eq
  rcases raw with _ | ⟨c, raw⟩
  · rfl
  · have := c.utf8Size_pos
    simp at hw
    omega

theorem newline_not_mem {raw cleaned : Text} (h : Blanked raw cleaned) (hn : '\n' ∉ raw) :
    '\n' ∉ cleaned := by
  induction h with
  | nil => exact hn
  | keep c _ ih =>
    simp only [List.mem_cons, not_or] at hn ⊢
    exact ⟨hn.1, ih hn.2⟩
  | blank c _ ih =>
    simp only [List.mem_cons, not_or] at hn
    intro hm
    rcases List.mem_append.mp hm with hm | hm
    · exact absurd (mem_spaces hm) (by decide)
    · exact ih hn.2 hm

/-- A line blanked as a whole. -/
theorem spaces_width (t : Text) : Blanked t (spaces (width t)) := by
  induction t with
  | nil => exact .nil
  | cons c t ih =>
    rw [width_cons, spaces_add]
    exact .blank c ih

/-- A character that is no space was kept, so the line can be cut there as the cleaned line is. -/
theorem split_at {raw cleaned : Text} (h : Blanked raw cleaned) {a b : Text} {c : Char}
    (hc : c ≠ ' ') (he : cleaned = a ++ c :: b) :
    ∃ x y, raw = x ++ c :: y ∧ Blanked x a ∧ Blanked y b := by
  induction h generalizing a with
  | nil => simp at he
  | @keep d raw cleaned h ih =>
    rcases a with _ | ⟨e, a⟩
    · obtain ⟨rfl, rfl⟩ := List.cons.inj he
      exact ⟨[], raw, rfl, .nil, h⟩
    · obtain ⟨rfl, ha⟩ := List.cons.inj he
      obtain ⟨x, y, rfl, hx, hy⟩ := ih ha
      exact ⟨d :: x, y, rfl, .keep d hx, hy⟩
  | @blank d raw cleaned h ih =>
    -- The cut cannot fall among the spaces that stand for `d`.
    rcases List.append_eq_append_iff.mp he with ⟨a', ha, hb⟩ | ⟨m, hd, hb⟩
    · obtain ⟨x, y, rfl, hx, hy⟩ := ih hb
      exact ⟨d :: x, y, rfl, ha ▸ .blank d hx, hy⟩
    · rcases m with _ | ⟨e, m⟩
      · obtain ⟨x, y, rfl, hx, hy⟩ := @ih [] hb.symm
        rw [List.append_nil] at hd
        exact ⟨d :: x, y, rfl, by simpa [← hd] using Blanked.blank d hx, hy⟩
      · obtain ⟨rfl, -⟩ := List.cons.inj hb
        have hm : c ∈ Text.blank d := by rw [hd]; simp
        exact absurd (mem_spaces hm) hc

/-- A part without spaces is a part of the line itself. -/
theorem split_around {raw : Text} {w : Text} (hw : ' ' ∉ w) (hne : w ≠ []) {a b : Text}
    (h : Blanked raw (a ++ w ++ b)) : ∃ x y, raw = x ++ w ++ y ∧ Blanked x a := by
  induction w generalizing raw a with
  | nil => exact absurd rfl hne
  | cons c w ih =>
    simp only [List.mem_cons, not_or] at hw
    obtain ⟨x, y, rfl, hx, hy⟩ := h.split_at (Ne.symm hw.1)
      (show a ++ c :: w ++ b = a ++ c :: (w ++ b) by simp)
    by_cases he : w = []
    · subst he
      exact ⟨x, y, by simp, hx⟩
    · obtain ⟨x', y', hy', hx'⟩ := @ih y hw.2 he [] (by simpa using hy)
      -- Nothing stands between two kept neighbours.
      have : x' = [] := hx'.eq_nil
      subst this
      exact ⟨x, y', by simp [hy'], hx⟩

end Blanked

/-! ## The three modes -/

theorem scriptFrom_blanked (inComment : Bool) (lit : Literal) (back t : Text) :
    ∃ k, (scriptFrom inComment lit back t).1 = back.reverse ++ k ∧ Blanked t k := by
  fun_induction scriptFrom inComment lit back t with
  | case1 inComment lit back => exact ⟨[], by simp, .nil⟩
  | case2 lit back rest ih =>
    obtain ⟨k, hk, hb⟩ := ih
    exact ⟨spaces 2 ++ k, by simp [hk], .blank '*' (.blank '/' hb)⟩
  | case3 lit back c rest _ ih =>
    obtain ⟨k, hk, hb⟩ := ih
    exact ⟨Text.blank c ++ k, by simp [hk], .blank c hb⟩
  | case4 lit back c rest ih =>
    obtain ⟨k, hk, hb⟩ := ih
    exact ⟨'\\' :: c :: k, by simp [hk], .keep _ (.keep _ hb)⟩
  | case5 back rest =>
    have hw : width ('/' :: '/' :: rest) = 2 + width rest := by
      simp only [width_cons, show '/'.utf8Size = 1 from rfl]
      omega
    exact ⟨spaces (2 + width rest), by simp, hw ▸ Blanked.spaces_width _⟩
  | case6 back rest ih =>
    obtain ⟨k, hk, hb⟩ := ih
    exact ⟨spaces 2 ++ k, by simp [hk], .blank '/' (.blank '*' hb)⟩
  | case7 lit back c rest _ _ _ ih =>
    obtain ⟨k, hk, hb⟩ := ih
    exact ⟨c :: k, by simp [hk], .keep c hb⟩

theorem styleFrom_blanked (inComment : Bool) (quote : Option Char) (back t : Text) :
    ∃ k, (styleFrom inComment quote back t).1 = back.reverse ++ k ∧ Blanked t k := by
  fun_induction styleFrom inComment quote back t with
  | case1 inComment quote back => exact ⟨[], by simp, .nil⟩
  | case2 quote back rest ih =>
    obtain ⟨k, hk, hb⟩ := ih
    exact ⟨spaces 2 ++ k, by simp [hk], .blank '*' (.blank '/' hb)⟩
  | case3 quote back c rest _ ih =>
    obtain ⟨k, hk, hb⟩ := ih
    exact ⟨Text.blank c ++ k, by simp [hk], .blank c hb⟩
  | case4 quote back c rest ih =>
    obtain ⟨k, hk, hb⟩ := ih
    exact ⟨'\\' :: c :: k, by simp [hk], .keep _ (.keep _ hb)⟩
  | case5 back rest ih =>
    obtain ⟨k, hk, hb⟩ := ih
    exact ⟨spaces 2 ++ k, by simp [hk], .blank '/' (.blank '*' hb)⟩
  | case6 quote back c rest _ _ ih =>
    obtain ⟨k, hk, hb⟩ := ih
    exact ⟨c :: k, by simp [hk], .keep c hb⟩

theorem markupFrom_blanked (inComment : Bool) (back t : Text) :
    ∃ k, (markupFrom inComment back t).1 = back.reverse ++ k ∧ Blanked t k := by
  fun_induction markupFrom inComment back t with
  | case1 inComment back => exact ⟨[], by simp, .nil⟩
  | case2 back rest ih =>
    obtain ⟨k, hk, hb⟩ := ih
    exact ⟨spaces 3 ++ k, by simp [hk], .blank '-' (.blank '-' (.blank '>' hb))⟩
  | case3 back c rest _ ih =>
    obtain ⟨k, hk, hb⟩ := ih
    exact ⟨Text.blank c ++ k, by simp [hk], .blank c hb⟩
  | case4 back rest ih =>
    obtain ⟨k, hk, hb⟩ := ih
    exact ⟨spaces 4 ++ k, by simp [hk], .blank '<' (.blank '!' (.blank '-' (.blank '-' hb)))⟩
  | case5 back c rest _ ih =>
    obtain ⟨k, hk, hb⟩ := ih
    exact ⟨c :: k, by simp [hk], .keep c hb⟩

/-- Stripping keeps each character of a line, or puts as many spaces in its place as it has
bytes. -/
theorem strip_blanked (mode : Mode) (line : Text) (s : State) : Blanked line (strip mode line s).1 := by
  cases mode with
  | script =>
    obtain ⟨k, hk, hb⟩ := scriptFrom_blanked s.inComment (if s.inTemplate then .template else .none) [] line
    simpa [strip, script, hk] using hb
  | style =>
    obtain ⟨k, hk, hb⟩ := styleFrom_blanked s.inComment none [] line
    simpa [strip, style, hk] using hb
  | markup =>
    obtain ⟨k, hk, hb⟩ := markupFrom_blanked s.inComment [] line
    simpa [strip, markup, hk] using hb

/-! ## Marks -/

/-- A text with the marked characters blanked. -/
def blankOut (t : Text) (marks : List Bool) : Text :=
  (t.zip marks).flatMap fun c => if c.2 then blank c.1 else [c.1]

theorem blankOut_cons (c : Char) (t : Text) (mark : Bool) (marks : List Bool) :
    blankOut (c :: t) (mark :: marks) = (if mark then blank c else [c]) ++ blankOut t marks := by
  rw [blankOut, List.zip_cons_cons, List.flatMap_cons]
  rfl

theorem blankOut_append {t u : Text} {marks more : List Bool} (h : t.length = marks.length) :
    blankOut (t ++ u) (marks ++ more) = blankOut t marks ++ blankOut u more := by
  rw [blankOut, List.zip_append h, List.flatMap_append]
  rfl

theorem width_blankOut {t : Text} {marks : List Bool} (h : marks.length = t.length) :
    width (blankOut t marks) = width t := by
  induction t generalizing marks with
  | nil => rfl
  | cons c t ih =>
    rcases marks with _ | ⟨mark, marks⟩
    · simp at h
    · rw [blankOut_cons, width_append, ih (by simpa using h)]
      cases mark <;> simp

theorem Blanked.exists_marks {raw cleaned : Text} (h : Blanked raw cleaned) :
    ∃ marks : List Bool, marks.length = raw.length ∧ cleaned = blankOut raw marks := by
  induction h with
  | nil => exact ⟨[], rfl, rfl⟩
  | keep c _ ih =>
    obtain ⟨marks, hlen, rfl⟩ := ih
    exact ⟨false :: marks, by simp [hlen], by simp [blankOut_cons]⟩
  | blank c _ ih =>
    obtain ⟨marks, hlen, rfl⟩ := ih
    exact ⟨true :: marks, by simp [hlen], by simp [blankOut_cons]⟩

/-- Wherever a text is cut, what is left of its first part is as wide as that part. -/
theorem blankOut_cut {a b : Text} {marks : List Bool} (h : marks.length = (a ++ b).length) :
    ∃ front, blankOut (a ++ b) marks = front ++ blankOut b (marks.drop a.length) ∧ width front = width a := by
  have hlen : (marks.take a.length).length = a.length := by
    rw [List.length_take, h, List.length_append]
    omega
  refine ⟨blankOut a (marks.take a.length), ?_, width_blankOut hlen⟩
  rw [← blankOut_append hlen.symm, List.take_append_drop]

/-- A character without a mark keeps its byte offset. -/
theorem blankOut_kept {t : Text} {marks : List Bool} (h : marks.length = t.length) {i : Nat} {c : Char}
    (hc : t[i]? = some c) (hmark : marks[i]? = some false) :
    ∃ j, (blankOut t marks)[j]? = some c ∧ (blankOut t marks).byteOffset j = t.byteOffset i := by
  obtain ⟨a, b, rfl, rfl⟩ := exists_append_of_getElem? hc
  obtain ⟨front, hfront, hwidth⟩ := blankOut_cut h
  obtain ⟨hlt, hget⟩ := List.getElem?_eq_some_iff.mp hmark
  rw [List.drop_eq_getElem_cons hlt, hget, blankOut_cons] at hfront
  rw [hfront]
  refine ⟨front.length, by simp, ?_⟩
  rw [byteOffset_append_length, byteOffset_append_length, hwidth]

theorem blankOut_boundary {t : Text} {marks : List Bool} (h : marks.length = t.length) {n : Nat}
    (hn : t.IsBoundary n) : (blankOut t marks).IsBoundary n := by
  obtain ⟨a, b, rfl, rfl⟩ := hn
  obtain ⟨front, hfront, hwidth⟩ := blankOut_cut h
  exact ⟨front, _, hfront, hwidth⟩

/-- Stripping blanks some characters of a line, each by as many spaces as it has bytes, and keeps the
others. So the line keeps its width, a character that is kept its byte offset, and no boundary between
two characters is lost. -/
theorem strip_layout (mode : Mode) (raw : Text) (s : State) :
    ∃ marks : List Bool, marks.length = raw.length ∧ (strip mode raw s).1 = blankOut raw marks ∧
      width (strip mode raw s).1 = width raw ∧
      (∀ i c, raw[i]? = some c → marks[i]? = some false →
        ∃ j, (strip mode raw s).1[j]? = some c ∧ (strip mode raw s).1.byteOffset j = raw.byteOffset i) ∧
      ∀ n, raw.IsBoundary n → (strip mode raw s).1.IsBoundary n := by
  obtain ⟨marks, hlen, hcleaned⟩ := (strip_blanked mode raw s).exists_marks
  rw [hcleaned]
  refine ⟨marks, hlen, rfl, width_blankOut hlen, ?_, ?_⟩
  · intro i c hc hmark
    exact blankOut_kept hlen hc hmark
  · intro n hn
    exact blankOut_boundary hlen hn

/-! ## Whole texts -/

theorem startsAfterNewlines_unlines_cons (base : Nat) {l : Text} (hl : '\n' ∉ l) {ls : List Text}
    (hls : ls ≠ []) : startsAfterNewlines base (unlines (l :: ls)) =
      (base + width l + 1) :: startsAfterNewlines (base + width l + 1) (unlines ls) := by
  rcases ls with _ | ⟨m, ls⟩
  · exact absurd rfl hls
  · rw [unlines, startsAfterNewlines_append, startsAfterNewlines_of_not_mem _ hl, List.nil_append,
      startsAfterNewlines]
    simp only [if_true, show '\n'.utf8Size = 1 from rfl]
    exact fun e => by cases e

/-- The lines of a stripped text start where those of the text start. -/
theorem startsAfterNewlines_stripLines (mode : Mode) (base : Nat) {ls : List Text}
    (hls : ∀ l ∈ ls, '\n' ∉ l) (s : State) :
    startsAfterNewlines base (unlines ((stripLines mode ls s).map (·.1))) =
      startsAfterNewlines base (unlines ls) := by
  induction ls generalizing base s with
  | nil => rfl
  | cons l ls ih =>
    have hl : '\n' ∉ l := hls l (by simp)
    have hb := strip_blanked mode l s
    have hc := hb.newline_not_mem hl
    by_cases he : ls = []
    · subst he
      simp only [stripLines, List.map_cons, List.map_nil, unlines]
      rw [startsAfterNewlines_of_not_mem _ hc, startsAfterNewlines_of_not_mem _ hl]
    · have hne : (stripLines mode ls (strip mode l s).2).map (·.1) ≠ [] := by
        rcases ls with _ | ⟨m, ls⟩
        · exact absurd rfl he
        · simp [stripLines]
      simp only [stripLines, List.map_cons]
      rw [startsAfterNewlines_unlines_cons base hc hne, startsAfterNewlines_unlines_cons base hl he,
        hb.width_eq, ih _ (fun m hm => hls m (List.mem_cons_of_mem _ hm))]

end FrontLint.Strip
