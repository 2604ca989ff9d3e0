/-
  FrontLint.Proofs.Strip.Retouch — what is written inside comments does not matter.

  A line is retouched if characters of its comments, between the marks that open and close them, are
  replaced by others with as many bytes, and no block comment gets a new closing mark. Proved, for
  scripts and style sheets:
  - `Segments.retouch` / `Segmentation.retouch`: the retouched line has the same segments, but for what
    is written in the comments.
  - `strip_retouched`: so it is cleaned to the same text and leaves the same open.
-/

import FrontLint.Proofs.Strip.Segment
import Mathlib.Data.List.Forall2

namespace FrontLint.Strip

open FrontLint.Text

/-- The characters of two texts have the same numbers of bytes. -/
abbrev SameWidths (t u : Text) : Prop := List.Forall₂ (fun a b : Char => a.utf8Size = b.utf8Size) t u

theorem SameWidths.width_eq {t u : Text} (h : SameWidths t u) : width u = width t := by
  induction h with
  | nil => rfl
  | cons hab _ ih => rw [width_cons, width_cons, hab, ih]

/-! ## Comments of a line -/

/-- How many characters of a segment close it. -/
def Segment.closing (g : Segment) : Nat := if g.closed then g.shape.closer else 0

/-- A line, read from state `s`, has comment `g` at place `start`. The first `opening` characters of it
open it: none, if it goes on from the line before. -/
def HasComment (d : Dialect) (s : State) (raw : Text) (g : Segment) (start opening : Nat) : Prop :=
  ∃ before after, Segmentation d s raw (before ++ g :: after) ∧ g.shape.isComment = true ∧
    start = (before.flatMap (·.text)).length ∧
    opening = if before.isEmpty && (d.carried s).isSome then 0 else g.shape.opener

/-- Place `j` lies in comment `g`, behind what opens it. -/
def Behind (d : Dialect) (s : State) (raw : Text) (g : Segment) (j : Nat) : Prop :=
  ∃ start opening, HasComment d s raw g start opening ∧ start + opening ≤ j ∧ j < start + g.text.length

/-- Place `j` lies in a comment, between what opens and what closes it. -/
def Inside (d : Dialect) (s : State) (raw : Text) (j : Nat) : Prop :=
  ∃ g start opening, HasComment d s raw g start opening ∧ start + opening ≤ j ∧
    j + g.closing < start + g.text.length

/-- `raw'` is `raw` with characters inside comments replaced, and no block comment closed anew. -/
structure Retouched (d : Dialect) (s : State) (raw raw' : Text) : Prop where
  widths : SameWidths raw raw'
  inside : ∀ (j : Nat) (a b : Char), raw[j]? = some a → raw'[j]? = some b → a ≠ b → Inside d s raw j
  no_close : ∀ g j, g.shape = .blockComment → Behind d s raw g j → Behind d s raw g (j + 1) →
    raw'[j]? = some '*' → raw'[j + 1]? = some '/' → raw[j]? = some '*' ∧ raw[j + 1]? = some '/'

/-! ## One segment -/

/-- `u` can be written for segment `g`, whose first `opening` characters open it. -/
structure Segment.Allows (opening : Nat) (g : Segment) (u : Text) : Prop where
  widths : SameWidths g.text u
  kept : ∀ k, g.shape.isComment = false ∨ k < opening ∨ g.text.length ≤ k + g.closing →
    u[k]? = g.text[k]?
  no_close : g.shape = .blockComment → ∀ k, opening ≤ k → k + 1 < g.text.length → u[k]? = some '*' →
    u[k + 1]? = some '/' → g.text[k]? = some '*' ∧ g.text[k + 1]? = some '/'

namespace Segment.Allows

variable {opening : Nat} {g : Segment} {u : Text}

theorem length_eq (h : g.Allows opening u) : u.length = g.text.length := h.widths.length_eq.symm

theorem eq_of_code (h : g.Allows opening u) (hg : g.shape.isComment = false) : u = g.text :=
  List.ext_getElem? fun k => h.kept k (.inl hg)

theorem cleaned_eq (h : g.Allows opening u) : Segment.cleaned { g with text := u } = g.cleaned := by
  unfold Segment.cleaned
  split
  · rw [h.widths.width_eq]
  · rename_i hg
    exact h.eq_of_code (by simpa using hg)

theorem head_eq (h : g.Allows g.shape.opener u) : u[0]? = g.text[0]? := by
  apply h.kept
  cases g.shape <;> simp [Shape.opener]

theorem second_eq (h : g.Allows g.shape.opener u) : u[1]? = g.text[1]? := by
  apply h.kept
  cases g.shape <;> simp [Shape.opener, Shape.isComment]

end Segment.Allows

/-! ## Where a segment closes depends on its own text -/

theorem take_append_of_lt {part : Text} (rest rest' : Text) {j : Nat} (h : j ≤ part.length) :
    (part ++ rest).take j = (part ++ rest').take j := by
  rw [List.take_append_of_le_length h, List.take_append_of_le_length h]

theorem bare_append {c : Char} {part : Text} (rest rest' : Text) {j : Nat} (h : j < part.length) :
    Bare c (part ++ rest) j ↔ Bare c (part ++ rest') j := by
  unfold Bare
  rw [List.getElem?_append_left h, List.getElem?_append_left h, take_append_of_lt rest rest' (Nat.le_of_lt h)]

theorem inClass_append {inside : Bool} {part : Text} (rest rest' : Text) {j : Nat} (h : j ≤ part.length) :
    InClass inside (part ++ rest) j ↔ InClass inside (part ++ rest') j := by
  have hno : ∀ a, (∀ k, a ≤ k → k < j → ¬ Bare ']' (part ++ rest) k) ↔
      ∀ k, a ≤ k → k < j → ¬ Bare ']' (part ++ rest') k := by
    intro a
    refine forall_congr' fun k => imp_congr_right fun _ => imp_congr_right fun hk => not_congr ?_
    exact bare_append rest rest' (by omega)
  unfold InClass
  refine or_congr (and_congr_right fun _ => ?_) (exists_congr fun i => and_congr_right fun hi => ?_)
  · simpa using hno 0
  · exact and_congr (bare_append rest rest' (by omega)) (hno (i + 1))

theorem closes_append (shape : Shape) {part : Text} (rest rest' : Text) {j : Nat}
    (h : j + shape.closer ≤ part.length) :
    shape.Closes (part ++ rest) j ↔ shape.Closes (part ++ rest') j := by
  cases shape with
  | quoted q => exact bare_append rest rest' h
  | regex => exact and_congr (bare_append rest rest' h) (not_congr (inClass_append rest rest' (Nat.le_of_lt h)))
  | blockComment =>
    have h : j + 2 ≤ part.length := h
    simp only [Shape.Closes, CommentCloses]
    rw [List.getElem?_append_left (by omega), List.getElem?_append_left (by omega),
      List.getElem?_append_left (by omega), List.getElem?_append_left (by omega)]
  | lineComment => exact Iff.rfl
  | escape =>
    have hne : part ≠ [] := List.length_pos_iff.mp (Nat.lt_of_lt_of_le (Nat.succ_pos j) h)
    simp [Shape.Closes, hne]
  | code => exact Iff.rfl

/-- The cut behind a segment is where it was, whatever comes next. -/
theorem through_append {shape : Shape} {part rest rest' : Text} {closed : Bool}
    (h : Through shape.Closes shape.closer (part ++ rest) part closed rest)
    (hrest : closed = false → rest' = []) :
    Through shape.Closes shape.closer (part ++ rest') part closed rest' := by
  generalize ht : part ++ rest = t at h
  rcases h with @⟨_, _, i, hi, hfirst, hlen⟩ | hno
  · refine .closed ((closes_append shape rest rest' (by omega)).mp hi) (fun j hj hc => ?_) hlen
    exact hfirst j hj ((closes_append shape rest rest' (by omega)).mpr hc)
  · rw [hrest rfl, List.append_nil]
    exact .unclosed hno

/-- A block comment that gets no new closing mark, and keeps its own, closes where it did. -/
theorem through_comment {part part' rest rest' : Text} {closed : Bool}
    (h : Through CommentCloses 2 (part ++ rest) part closed rest) (hlen : part'.length = part.length)
    (hmark : closed = true → ∀ k, part.length ≤ k + 2 → part'[k]? = part[k]?)
    (hnew : ∀ k, k + 1 < part.length → part'[k]? = some '*' → part'[k + 1]? = some '/' →
      part[k]? = some '*' ∧ part[k + 1]? = some '/')
    (hrest : closed = false → rest' = []) :
    Through CommentCloses 2 (part' ++ rest') part' closed rest' := by
  have hback : ∀ j, j + 1 < part.length → CommentCloses (part' ++ rest') j → CommentCloses (part ++ rest) j := by
    rintro j hj ⟨h1, h2⟩
    rw [List.getElem?_append_left (by omega)] at h1 h2
    obtain ⟨h3, h4⟩ := hnew j hj h1 h2
    exact ⟨by rw [List.getElem?_append_left (by omega), h3], by rw [List.getElem?_append_left (by omega), h4]⟩
  generalize ht : part ++ rest = t at h
  rcases h with @⟨_, _, i, ⟨h1, h2⟩, hfirst, hi⟩ | hno
  · rw [List.getElem?_append_left (by omega)] at h1 h2
    refine .closed (i := i) ⟨?_, ?_⟩ (fun j hj hc => hfirst j hj (hback j (by omega) hc)) (by omega)
    · rw [List.getElem?_append_left (by omega), hmark rfl i (by omega), h1]
    · rw [List.getElem?_append_left (by omega), hmark rfl (i + 1) (by omega), h2]
  · rw [hrest rfl, List.append_nil]
    refine .unclosed fun j hc => ?_
    obtain ⟨hj, -⟩ := List.getElem?_eq_some_iff.mp hc.2
    have hold := hback j (by omega) (by rwa [hrest rfl, List.append_nil])
    rw [List.append_nil] at hold
    exact hno j hold

theorem Through.exists_closes {Closes : Text → Nat → Prop} {len : Nat} {t part rest : Text}
    (h : Through Closes len t part true rest) : ∃ i, Closes t i := by
  cases h with
  | closed hi _ _ => exact ⟨_, hi⟩

/-! ## Segment after segment -/

/-- Two characters tell what opens a text. -/
theorem shapeAt_two (d : Dialect) (done : Text) (c x : Char) (t : Text) :
    shapeAt d done (c :: x :: t) = shapeAt d done [c, x] := by
  by_cases hslash : c = '/'
  · subst hslash
    by_cases hstar : x = '*'
    · simp [shapeAt, hstar]
    · by_cases hline : x = '/'
      · simp [shapeAt, hline]
      · simp [shapeAt, hstar, hline]
  · by_cases hesc : c = '\\'
    · simp [shapeAt, hesc]
    · simp [shapeAt, hslash]

theorem shapeAt_congr (d : Dialect) (done : Text) {t t' : Text} (h0 : t'[0]? = t[0]?) (h1 : t'[1]? = t[1]?) :
    shapeAt d done t' = shapeAt d done t := by
  rcases t with _ | ⟨c, t⟩
  · have : t' = [] := by simpa using h0
    rw [this]
  · obtain ⟨t', rfl⟩ : ∃ r, t' = c :: r := by
      rcases t' with _ | ⟨c', t'⟩
      · simp at h0
      · exact ⟨t', by simpa using h0⟩
    rcases t with _ | ⟨x, t⟩
    · have : t' = [] := by simpa using h1
      rw [this]
    · obtain ⟨t', rfl⟩ : ∃ r, t' = x :: r := by
        rcases t' with _ | ⟨x', t'⟩
        · simp at h1
        · exact ⟨t', by simpa using h1⟩
      rw [shapeAt_two, shapeAt_two d done c x t]

theorem opener_le_of_shapeAt (d : Dialect) (done : Text) {t : Text} (ht : t ≠ []) :
    (shapeAt d done t).opener ≤ t.length := by
  rcases t with _ | ⟨c, _ | ⟨x, t⟩⟩
  · exact absurd rfl ht
  · have hone : (shapeAt d done [c]).opener = 1 := by
      by_cases hslash : c = '/'
      · subst hslash
        simp only [shapeAt]
        split <;> rfl
      · by_cases hesc : c = '\\'
        · simp [shapeAt, hesc, Shape.opener]
        · simp only [shapeAt]
          split <;> rfl
    rw [hone]
    exact Nat.le_refl 1
  · have htwo : (shapeAt d done (c :: x :: t)).opener ≤ 2 := by
      cases shapeAt d done (c :: x :: t) <;> simp [Shape.opener]
    simp only [List.length_cons]
    omega

/-- What is written for a segment closes where the segment does. -/
theorem Segment.Allows.through {opening : Nat} {g : Segment} {u rest rest' : Text} (hu : g.Allows opening u)
    (h : Through g.shape.Closes g.shape.closer (g.text.drop opening ++ rest) (g.text.drop opening) g.closed rest)
    (hrest : g.closed = false → rest' = []) :
    Through g.shape.Closes g.shape.closer (u.drop opening ++ rest') (u.drop opening) g.closed rest' := by
  obtain ⟨shape, text, closed⟩ := g
  have hlen : u.length = text.length := hu.length_eq
  by_cases hg : shape.isComment = false
  · have hsame : u = text := hu.eq_of_code hg
    subst hsame
    exact through_append h hrest
  cases shape with
  | blockComment =>
    refine through_comment h (by simp [hlen]) ?_ ?_ hrest
    · intro hclosed k hk
      simp only [List.length_drop, List.getElem?_drop] at hk ⊢
      refine hu.kept (opening + k) (.inr (.inr ?_))
      have hmark : (Segment.mk .blockComment text closed).closing = 2 := by
        simp only at hclosed
        simp [closing, hclosed, Shape.closer]
      simp only [hmark]
      omega
    · intro k hk h1 h2
      simp only [List.length_drop, List.getElem?_drop] at hk h1 h2 ⊢
      exact hu.no_close rfl (opening + k) (by omega) (by simp only; omega) h1 h2
  | lineComment =>
    cases hclosed : closed with
    | true =>
      rw [hclosed] at h
      obtain ⟨i, hi⟩ := h.exists_closes
      exact hi.elim
    | false =>
      rw [hrest hclosed, List.append_nil]
      exact .unclosed fun i hi => hi
  | quoted q => simp [Shape.isComment] at hg
  | regex => simp [Shape.isComment] at hg
  | escape => simp [Shape.isComment] at hg
  | code => simp [Shape.isComment] at hg

theorem Starts.text_pos {d : Dialect} {done t rest : Text} {g : Segment} (h : Starts d done t g rest) :
    0 < g.text.length := by
  have h1 := congrArg List.length h.append_eq
  have h2 := h.length_lt
  rw [List.length_append] at h1
  omega

theorem Starts.retouch {d : Dialect} {done t rest rest' u : Text} {g : Segment} (h : Starts d done t g rest)
    (hu : g.Allows g.shape.opener u) (hhead : rest'[0]? = rest[0]?) (hrest : g.closed = false → rest' = []) :
    Starts d done (u ++ rest') { g with text := u } rest' := by
  have ht := h.append_eq
  obtain ⟨part, htext, hcut⟩ := h.through
  have hlen := hu.length_eq
  have hopen : g.shape.opener ≤ t.length := h.shape_eq ▸ opener_le_of_shapeAt d done h.ne_nil
  have hle : g.shape.opener ≤ g.text.length := by
    rw [htext, List.length_append, List.length_take]
    omega
  have hle' : g.shape.opener ≤ u.length := by omega
  have hpos := h.text_pos
  have hpart : part = g.text.drop g.shape.opener := by
    rw [htext, List.drop_left' (by rw [List.length_take]; omega)]
  have hdrop : t.drop g.shape.opener = g.text.drop g.shape.opener ++ rest := by
    rw [← ht, List.drop_append_of_le_length hle]
  rw [hdrop, hpart] at hcut
  refine ⟨?_, ?_, u.drop g.shape.opener, ?_, ?_⟩
  · intro he
    have := congrArg List.length (List.append_eq_nil_iff.mp he).1
    rw [hlen, List.length_nil] at this
    omega
  · rw [h.shape_eq]
    refine (shapeAt_congr d done ?_ ?_).symm
    · rw [← ht, List.getElem?_append_left (by omega), List.getElem?_append_left hpos, hu.head_eq]
    · rw [← ht]
      by_cases htwo : 1 < g.text.length
      · rw [List.getElem?_append_left (by omega), List.getElem?_append_left htwo, hu.second_eq]
      · rw [List.getElem?_append_right (by omega), List.getElem?_append_right (by omega), hlen,
          show 1 - g.text.length = 0 by omega, hhead]
  · rw [List.take_append_of_le_length hle', List.take_append_drop]
  · rw [List.drop_append_of_le_length hle']
    exact hu.through hcut hrest

/-- A text that can be written for segments, one part for each. -/
inductive Allowed : List Segment → Text → Prop
  | nil : Allowed [] []
  | cons {g : Segment} {u t : Text} {ss : List Segment} : g.Allows g.shape.opener u → Allowed ss t →
      Allowed (g :: ss) (u ++ t)

/-- The first character is not inside a comment. -/
theorem Segments.head_eq {d : Dialect} {done t t' : Text} {ss : List Segment} (h : Segments d done t ss)
    (ht : Allowed ss t') : t'[0]? = t[0]? := by
  cases h with
  | nil =>
    cases ht
    rfl
  | @cons _ _ rest g ss hg hss =>
    cases ht with
    | @cons _ u t1 _ hu ht =>
      have hlen := hu.length_eq
      have hpos := hg.text_pos
      rw [← hg.append_eq, List.getElem?_append_left (by omega), List.getElem?_append_left hpos, hu.head_eq]

theorem Segments.retouch {d : Dialect} {done t t' : Text} {ss : List Segment} (h : Segments d done t ss)
    (ht : Allowed ss t') :
    ∃ ss', Segments d done t' ss' ∧ ss'.map (·.cleaned) = ss.map (·.cleaned) ∧
      ss'.map (·.leaves) = ss.map (·.leaves) := by
  induction h generalizing t' with
  | nil =>
    cases ht
    exact ⟨[], .nil, rfl, rfl⟩
  | @cons done t rest g ss hg hss ih =>
    cases ht with
    | @cons _ u t1 _ hu ht1 =>
      obtain ⟨ss', hss', hcleaned, hleaves⟩ := ih ht1
      have hrest : g.closed = false → t1 = [] := by
        intro hclosed
        obtain ⟨part, -, hcut⟩ := hg.through
        rw [hclosed] at hcut
        have hnil := hcut.rest_eq_nil
        subst hnil
        cases hss with
        | nil =>
          cases ht1
          rfl
        | cons hg' _ => exact absurd rfl hg'.ne_nil
      refine ⟨{ g with text := u } :: ss', .cons (hg.retouch hu (hss.head_eq ht1) hrest) ?_, ?_, ?_⟩
      · rw [hu.cleaned_eq]
        exact hss'
      · rw [List.map_cons, List.map_cons, hu.cleaned_eq, hcleaned]
      · rw [List.map_cons, List.map_cons, hleaves]
        rfl

/-! ## A whole line -/

/-- Two segments of a line that share a place are the same one. -/
theorem eq_of_shared_place {before before' after after' : List Segment} {g g' : Segment} {j : Nat}
    (he : before ++ g :: after = before' ++ g' :: after')
    (h1 : (before.flatMap (·.text)).length ≤ j) (h2 : j < (before.flatMap (·.text)).length + g.text.length)
    (h3 : (before'.flatMap (·.text)).length ≤ j) (h4 : j < (before'.flatMap (·.text)).length + g'.text.length) :
    before = before' ∧ g = g' := by
  -- Were one of them earlier in the list, it would end before the other starts.
  have not_earlier : ∀ {b b' m : List Segment} {x : Segment}, b' = b ++ x :: m →
      (b'.flatMap (·.text)).length ≤ j → ¬ j < (b.flatMap (·.text)).length + x.text.length := by
    rintro b b' m x rfl hle hlt
    simp only [List.flatMap_append, List.flatMap_cons, List.length_append] at hle
    omega
  rcases List.append_eq_append_iff.mp he with ⟨m, hb, hg⟩ | ⟨m, hb, hg⟩
  · rcases m with _ | ⟨x, m⟩
    · rw [List.append_nil] at hb
      exact ⟨hb.symm, (List.cons.inj hg).1⟩
    · obtain ⟨rfl, -⟩ := List.cons.inj hg
      exact absurd h2 (not_earlier hb h3)
  · rcases m with _ | ⟨x, m⟩
    · rw [List.append_nil] at hb
      exact ⟨hb, (List.cons.inj hg).1.symm⟩
    · obtain ⟨rfl, -⟩ := List.cons.inj hg
      exact absurd h4 (not_earlier hb h1)

section Line

variable {d : Dialect} {s : State} {raw raw' : Text}

/-- What a retouched line has in place of a segment can be written for it. -/
theorem Retouched.allows (h : Retouched d s raw raw') {before after : List Segment} {g : Segment}
    (hall : Segmentation d s raw (before ++ g :: after)) :
    g.Allows (if before.isEmpty && (d.carried s).isSome then 0 else g.shape.opener)
      ((raw'.drop (before.flatMap (·.text)).length).take g.text.length) := by
  have hline : raw = before.flatMap (·.text) ++ (g.text ++ after.flatMap (·.text)) := by
    rw [← hall.flatMap_text, List.flatMap_append, List.flatMap_cons]
  have htext : (raw.drop (before.flatMap (·.text)).length).take g.text.length = g.text := by
    rw [hline, List.drop_left, List.take_left]
  have hold : ∀ k < g.text.length, raw[(before.flatMap (·.text)).length + k]? = g.text[k]? := by
    intro k hk
    rw [← List.getElem?_drop, ← List.getElem?_take_of_lt hk, htext]
  have hnew : ∀ k < g.text.length, raw'[(before.flatMap (·.text)).length + k]? =
      ((raw'.drop (before.flatMap (·.text)).length).take g.text.length)[k]? := by
    intro k hk
    rw [List.getElem?_take_of_lt hk, List.getElem?_drop]
  have hwidths : SameWidths g.text ((raw'.drop (before.flatMap (·.text)).length).take g.text.length) := by
    have := List.forall₂_take g.text.length (List.forall₂_drop (before.flatMap (·.text)).length h.widths)
    rwa [htext] at this
  refine ⟨hwidths, fun k hk => ?_, fun hblock k h1 h2 h3 h4 => ?_⟩
  · by_cases hlt : k < g.text.length
    · apply Classical.byContradiction
      intro hne
      have hlen := hwidths.length_eq
      have ha := List.getElem?_eq_getElem hlt
      have hb := List.getElem?_eq_getElem (hlen ▸ hlt)
      obtain ⟨g', start, opening, hcomment, hin1, hin2⟩ := h.inside _ _ _ ((hold k hlt).trans ha)
        ((hnew k hlt).trans hb) (fun hab => hne (by rw [ha, hb, hab]))
      obtain ⟨before', after', hall', hg', rfl, rfl⟩ := hcomment
      obtain ⟨rfl, rfl⟩ := eq_of_shared_place (j := (before.flatMap (·.text)).length + k)
        (hall.unique hall') (by omega) (by omega) (by omega) (by omega)
      rcases hk with hk | hk | hk
      · rw [hg'] at hk
        cases hk
      · omega
      · omega
    · have hlen := hwidths.length_eq
      rw [List.getElem?_eq_none (l := g.text) (by omega), List.getElem?_eq_none (by omega)]
  · have hbehind : ∀ i, (before.flatMap (·.text)).length +
        (if before.isEmpty && (d.carried s).isSome then 0 else g.shape.opener) ≤ i →
        i < (before.flatMap (·.text)).length + g.text.length → Behind d s raw g i := by
      intro i hi1 hi2
      exact ⟨_, _, ⟨before, after, hall, by rw [hblock]; rfl, rfl, rfl⟩, hi1, hi2⟩
    rw [← hnew k (by omega)] at h3
    rw [← hnew (k + 1) h2] at h4
    have hclose := h.no_close g ((before.flatMap (·.text)).length + k) hblock
      (hbehind _ (by omega) (by omega)) (hbehind _ (by omega) (by omega)) h3 h4
    rwa [hold k (by omega), Nat.add_assoc, hold (k + 1) h2] at hclose

/-- So it has, for the segments from one on that does not go on from the line before. -/
theorem Retouched.allowed (h : Retouched d s raw raw') {before ss : List Segment}
    (hall : Segmentation d s raw (before ++ ss)) (hfresh : before = [] → d.carried s = none) :
    Allowed ss (raw'.drop (before.flatMap (·.text)).length) := by
  induction ss generalizing before with
  | nil =>
    have hlen := h.widths.length_eq
    rw [List.append_nil] at hall
    rw [hall.flatMap_text, List.drop_eq_nil_of_le (by omega)]
    exact .nil
  | cons g ss ih =>
    have hg := h.allows hall
    have hopening : (before.isEmpty && (d.carried s).isSome) = false := by
      cases before with
      | nil => simp [hfresh rfl]
      | cons _ _ => rfl
    rw [hopening] at hg
    have hrest := @ih (before ++ [g]) (by simpa using hall) (by simp)
    have hsplit : raw'.drop (before.flatMap (·.text)).length =
        (raw'.drop (before.flatMap (·.text)).length).take g.text.length ++
          raw'.drop ((before ++ [g]).flatMap (·.text)).length := by
      simp only [List.flatMap_append, List.flatMap_cons, List.flatMap_nil, List.append_nil, List.length_append]
      rw [← List.drop_drop, List.take_append_drop]
    rw [hsplit]
    exact .cons hg hrest

theorem Segmentation.retouch {ss : List Segment} (hss : Segmentation d s raw ss)
    (h : Retouched d s raw raw') :
    ∃ ss', Segmentation d s raw' ss' ∧ ss'.map (·.cleaned) = ss.map (·.cleaned) ∧
      ss'.map (·.leaves) = ss.map (·.leaves) := by
  have hall := hss
  rcases hss with ⟨hcarried, hss⟩ | @⟨g, rest, ss, hcarried, hcut, hss⟩
  · have hallowed := @Retouched.allowed _ _ _ _ h [] _ hall (fun _ => hcarried)
    obtain ⟨ss', hss', hcleaned, hleaves⟩ := hss.retouch hallowed
    exact ⟨ss', .fresh hcarried hss', hcleaned, hleaves⟩
  · have hg := @Retouched.allows _ _ _ _ h [] _ _ hall
    have hallowed := @Retouched.allowed _ _ _ _ h [g] _ hall (by simp)
    simp only [List.flatMap_cons, List.flatMap_nil, List.append_nil, List.length_nil, List.drop_zero,
      List.isEmpty_nil, hcarried, Option.isSome_some, Bool.and_self, if_true] at hg hallowed
    obtain ⟨ss', hss', hcleaned, hleaves⟩ := hss.retouch hallowed
    have hend : g.closed = false → raw'.drop g.text.length = [] := by
      intro hclosed
      have hlen := h.widths.length_eq
      have happ := hcut.append_eq
      rw [hclosed] at hcut
      rw [hcut.rest_eq_nil, List.append_nil] at happ
      rw [happ, List.drop_eq_nil_of_le (by omega)]
    have hcut' := hg.through (by rwa [List.drop_zero, hcut.append_eq]) hend
    rw [List.drop_zero, List.take_append_drop] at hcut'
    refine ⟨{ g with text := raw'.take g.text.length } :: ss', .tail hcarried hcut' ?_, ?_, ?_⟩
    · rw [hg.cleaned_eq]
      exact hss'
    · rw [List.map_cons, List.map_cons, hg.cleaned_eq, hcleaned]
    · rw [List.map_cons, List.map_cons, hleaves]
      rfl

/-- A retouched line is cleaned to the same text and leaves the same open. -/
theorem strip_retouched (hs : ¬ (s.inComment = true ∧ s.inTemplate = true)) (h : Retouched d s raw raw') :
    strip d.mode raw' s = strip d.mode raw s := by
  obtain ⟨ss, hss, hstrip⟩ := exists_segmentation d raw s hs
  obtain ⟨ss', hss', hcleaned, hleaves⟩ := hss.retouch h
  obtain ⟨ss'', hss'', hstrip'⟩ := exists_segmentation d raw' s hs
  have hopen : leftOpen ss' = leftOpen ss := by
    rw [leftOpen, leftOpen, ← List.getLast?_map, ← List.getLast?_map, hleaves]
  rw [hstrip', hss''.unique hss', hstrip, hopen, List.flatMap_def, List.flatMap_def, hcleaned]

end Line

end FrontLint.Strip
