/-
  FrontLint.Proofs.Strip.Markup — the comments of a markup text as a whole.

  `commented inside t` tells which characters of a text stand in comments, if one is open at its start
  or not, and whether one is open at its end. A comment goes on over newlines. Proved:
  - `strip_markup`: a line is stripped of its comments; `strip_markup_whole`: a text is, read as one line.
  - `commented_line`: the comments of a line, read with what the lines before it leave open, are those
    that the text has there.
  - `cleaned_eq_cover`: a text cleaned line by line is the text without its comments.
  - `cover_split`: what is no blank in a cleaned text stands in no comment, at the same offset.
  - `commented_append_plain`: text without hyphens neither opens nor closes a comment.
  - `commented_of_opener`: all is in a comment from the first opener on, through the first closing mark.
-/

import FrontLint.Pass.Span
import FrontLint.Proofs.Pass.Cleaning
import FrontLint.Proofs.Strip.Layout
import FrontLint.Text.Blank

namespace FrontLint.Strip

open FrontLint.Text

/-- Which characters of a markup text stand in comments, and whether one is open at the end. -/
def commented : Bool → Text → List Bool × Bool
  | inside, [] => ([], inside)
  | true, '-' :: '-' :: '>' :: rest =>
    (true :: true :: true :: (commented false rest).1, (commented false rest).2)
  | true, _ :: rest => (true :: (commented true rest).1, (commented true rest).2)
  | false, '<' :: '!' :: '-' :: '-' :: rest =>
    (true :: true :: true :: true :: (commented true rest).1, (commented true rest).2)
  | false, _ :: rest => (false :: (commented false rest).1, (commented false rest).2)

/-- What opens a comment. -/
def opener : Text := Text.ofString "<!--"

/-- What closes it. -/
def closer : Text := Text.ofString "-->"

-- The equations of `commented` are worked out here once, for the proofs that follow.
attribute [local simp] commented in
theorem commented_inside {c : Char} {rest : Text} (h : ¬ closer <+: c :: rest) :
    commented true (c :: rest) = (true :: (commented true rest).1, (commented true rest).2) := by
  refine commented.eq_3 c rest fun u hc hrest => h ⟨u, ?_⟩
  rw [hc, hrest]
  rfl

theorem commented_outside {c : Char} {rest : Text} (h : ¬ opener <+: c :: rest) :
    commented false (c :: rest) = (false :: (commented false rest).1, (commented false rest).2) := by
  refine commented.eq_5 c rest fun u hc hrest => h ⟨u, ?_⟩
  rw [hc, hrest]
  rfl

/-- A text with the marked characters blanked, newlines apart. -/
def cover (t : Text) (marks : List Bool) : Text :=
  (t.zip marks).flatMap fun c => if c.2 ∧ c.1 ≠ '\n' then blank c.1 else [c.1]

theorem length_commented (inside : Bool) (t : Text) : (commented inside t).1.length = t.length := by
  fun_induction commented inside t <;> simp_all

theorem cover_cons (c : Char) (t : Text) (mark : Bool) (marks : List Bool) :
    cover (c :: t) (mark :: marks) = (if mark ∧ c ≠ '\n' then blank c else [c]) ++ cover t marks := by
  rw [cover, List.zip_cons_cons, List.flatMap_cons]
  rfl

theorem cover_append {t u : Text} {marks more : List Bool} (h : t.length = marks.length) :
    cover (t ++ u) (marks ++ more) = cover t marks ++ cover u more := by
  rw [cover, List.zip_append h, List.flatMap_append]
  rfl

theorem cover_unmarked (c : Char) (t : Text) (marks : List Bool) :
    cover (c :: t) (false :: marks) = c :: cover t marks := by
  rw [cover_cons, if_neg (by simp)]
  rfl

theorem cover_eq_blankOut {t : Text} (h : '\n' ∉ t) (marks : List Bool) : cover t marks = blankOut t marks := by
  unfold cover blankOut
  rw [List.flatMap_def, List.flatMap_def]
  congr 1
  refine List.map_congr_left fun c hc => ?_
  have hne : c.1 ≠ '\n' := by
    intro he
    exact h (he ▸ (List.of_mem_zip hc).1)
  simp [hne]

/-! ## Lines -/

theorem markupFrom_eq (inside : Bool) (back t : Text) :
    markupFrom inside back t =
      (back.reverse ++ blankOut t (commented inside t).1, ⟨(commented inside t).2, false⟩) := by
  fun_induction markupFrom inside back t with
  | case1 inside back => simp [commented, blankOut]
  | case2 back rest ih =>
    have hblank : ∀ u, blank '-' ++ (blank '-' ++ (blank '>' ++ u)) = spaces 3 ++ u := fun _ => rfl
    simp only [ih, commented, blankOut_cons, if_true, hblank]
    simp
  | case3 back c rest hno ih =>
    rw [ih, commented.eq_3 _ _ hno]
    simp [blankOut_cons]
  | case4 back rest ih =>
    have hblank : ∀ u, blank '<' ++ (blank '!' ++ (blank '-' ++ (blank '-' ++ u))) = spaces 4 ++ u :=
      fun _ => rfl
    simp only [ih, commented, blankOut_cons, if_true, hblank]
    simp
  | case5 back c rest hno ih =>
    rw [ih, commented.eq_5 _ _ hno]
    simp [blankOut_cons]

/-- A markup text read as one line, newlines and all, is stripped of its comments. -/
theorem strip_markup_whole (t : Text) (s : State) :
    strip .markup t s =
      (blankOut t (commented s.inComment t).1, ⟨(commented s.inComment t).2, false⟩) :=
  markupFrom_eq s.inComment [] t

/-- A markup line is stripped of its comments. -/
theorem strip_markup {line : Text} (h : '\n' ∉ line) (s : State) :
    strip .markup line s =
      (cover line (commented s.inComment line).1, ⟨(commented s.inComment line).2, false⟩) := by
  rw [strip_markup_whole, cover_eq_blankOut h]

/-- A comment goes on over a newline. -/
theorem commented_newline (inside : Bool) (line rest : Text) (h : '\n' ∉ line) :
    commented inside (line ++ '\n' :: rest) =
      ((commented inside line).1 ++ (commented inside line).2 ::
          (commented (commented inside line).2 rest).1,
        (commented (commented inside line).2 rest).2) := by
  fun_induction commented inside line with
  | case1 inside => cases inside <;> rfl
  | case2 line ih => simp [commented, ih (by simp_all)]
  | case3 c line hno ih =>
    simp only [List.mem_cons, not_or] at h
    have hopen : ¬ closer <+: c :: (line ++ '\n' :: rest) := by
      intro hp
      obtain ⟨u, hu⟩ := @prefix_of_append_newline _ (c :: line) _ (by decide) hp
      exact hno u (List.cons.inj hu).1.symm (List.cons.inj hu).2.symm
    rw [List.cons_append, commented_inside hopen, ih h.2]
    rfl
  | case4 line ih => simp [commented, ih (by simp_all)]
  | case5 c line hno ih =>
    simp only [List.mem_cons, not_or] at h
    have hclosed : ¬ opener <+: c :: (line ++ '\n' :: rest) := by
      intro hp
      obtain ⟨u, hu⟩ := @prefix_of_append_newline _ (c :: line) _ (by decide) hp
      exact hno u (List.cons.inj hu).1.symm (List.cons.inj hu).2.symm
    rw [List.cons_append, commented_outside hclosed, ih h.2]
    rfl

/-! ## Texts -/

/-- Behind whole lines, what is open is what these leave open. -/
theorem commented_ended {ls : List Text} (h : ∀ l ∈ ls, '\n' ∉ l) (s : State) (rest : Text) :
    commented s.inComment (ended ls ++ rest) =
      ((commented s.inComment (ended ls)).1 ++ (commented (openAfter .markup s ls).inComment rest).1,
        (commented (openAfter .markup s ls).inComment rest).2) := by
  induction ls generalizing s with
  | nil => simp [ended, commented, openAfter]
  | cons l ls ih =>
    have hl := h l List.mem_cons_self
    have hopen : (openAfter .markup s (l :: ls)) = openAfter .markup (strip .markup l s).2 ls := rfl
    have hrest := ih (fun m hm => h m (List.mem_cons_of_mem _ hm)) (strip .markup l s).2
    rw [strip_markup hl] at hopen hrest
    rw [hopen, ended_cons, List.append_assoc, List.cons_append, commented_newline _ _ _ hl,
      commented_newline _ _ _ hl]
    simp only [List.append_assoc, List.cons_append]
    rw [hrest]

/-- Whole lines leave a comment open if one is open at the end of their text. -/
theorem openAfter_markup {ls : List Text} (h : ∀ l ∈ ls, '\n' ∉ l) :
    openAfter .markup .neutral ls = ⟨(commented false (ended ls)).2, false⟩ := by
  have hcomment : (commented false (ended ls)).2 = (openAfter .markup .neutral ls).inComment := by
    have hended := congrArg Prod.snd (commented_ended h .neutral [])
    rwa [List.append_nil] at hended
  have htemplate : (openAfter .markup .neutral ls).inTemplate = false := by
    rcases List.eq_nil_or_concat ls with rfl | ⟨ms, l, rfl⟩
    · rfl
    · rw [List.concat_eq_append] at h ⊢
      rw [openAfter_concat, strip_markup (h l (by simp))]
  rw [hcomment, ← htemplate]

/-- The comments of a line, read with what the lines before it leave open, are those of the text. -/
theorem commented_line {t line : Text} {n j : Nat} (hline : t.lines[n]? = some line) (hj : j < line.length) :
    ∃ i, i < t.length ∧ t.place i = ⟨n, j⟩ ∧ (commented false t).1[i]? =
      (commented (openAfter .markup .neutral (t.lines.take n)).inComment line).1[j]? := by
  obtain ⟨b, ht, hb⟩ := exists_append_of_lines_getElem? hline
  have hlines : ∀ l ∈ t.lines.take n, '\n' ∉ l :=
    fun l hl => newline_not_mem_of_mem_lines (List.mem_of_mem_take hl)
  have hnl := newline_not_mem_of_mem_lines (List.mem_of_getElem? hline)
  refine ⟨(ended (t.lines.take n)).length + j, ?_, ?_, ?_⟩
  · have hlen := congrArg List.length ht
    simp only [List.length_append] at hlen
    omega
  · exact place_line hline (Nat.le_of_lt hj)
  · have hended := congrArg Prod.fst (commented_ended hlines .neutral (line ++ b))
    rw [← ht] at hended
    have hrest : ∀ o, (commented o (line ++ b)).1[j]? = (commented o line).1[j]? := by
      intro o
      rcases b with _ | ⟨c, b⟩
      · rw [List.append_nil]
      · rw [hb c rfl, commented_newline o line b hnl]
        exact List.getElem?_append_left (by rwa [length_commented])
    rw [show commented false t = commented State.neutral.inComment t from rfl, hended,
      List.getElem?_append_right (by rw [length_commented]; omega), length_commented, Nat.add_sub_cancel_left,
      hrest]

theorem cover_unlines {ls : List Text} (hne : ls ≠ []) (h : ∀ l ∈ ls, '\n' ∉ l) (s : State) :
    unlines ((stripLines .markup ls s).map (·.1)) =
      cover (unlines ls) (commented s.inComment (unlines ls)).1 := by
  induction ls generalizing s with
  | nil => exact absurd rfl hne
  | cons l ls ih =>
    have hl := h l List.mem_cons_self
    rcases ls with _ | ⟨m, ls⟩
    · simp only [stripLines, List.map_cons, List.map_nil, unlines, strip_markup hl]
    · have hrest := ih (by simp) (fun k hk => h k (List.mem_cons_of_mem _ hk)) (strip .markup l s).2
      simp only [stripLines, List.map_cons, unlines] at hrest ⊢
      rw [hrest, commented_newline _ _ _ hl, cover_append (length_commented _ _).symm, cover_cons,
        if_neg (by simp), strip_markup hl]
      rfl

/-- A text cleaned line by line is the text without its comments. -/
theorem cleaned_eq_cover (t : Text) : SpanPass.cleaned t = cover t (commented false t).1 := by
  have h := cover_unlines (lines_ne_nil t) (fun l hl => newline_not_mem_of_mem_lines hl) .neutral
  rwa [unlines_lines] at h

theorem blanked_cover {t : Text} {marks : List Bool} (h : marks.length = t.length) :
    Blanked t (cover t marks) := by
  induction t generalizing marks with
  | nil => exact .nil
  | cons c t ih =>
    rcases marks with _ | ⟨mark, marks⟩
    · simp at h
    · have hrest := ih (by simpa using h)
      rw [cover_cons]
      split
      · exact .blank c hrest
      · exact .keep c hrest

theorem width_cover {t : Text} {marks : List Bool} (h : marks.length = t.length) :
    width (cover t marks) = width t := (blanked_cover h).width_eq

/-- A text without its comments, newlines apart, is laid out as the text. -/
theorem blanked_cleaned (t : Text) : Blanked t (SpanPass.cleaned t) := by
  rw [cleaned_eq_cover]
  exact blanked_cover (length_commented false t)

theorem width_cleaned (t : Text) : width (SpanPass.cleaned t) = width t := (blanked_cleaned t).width_eq

theorem ne_of_not_blank {x y : Char} (hx : isBlank x = false) (hy : isBlank y = true) : x ≠ y := by
  rintro rfl
  rw [hx] at hy
  cases hy

/-- What is no blank in a cleaned text stands in no comment, at the same offset. -/
theorem cover_split {t a b : Text} {marks : List Bool} {x : Char} (hx : isBlank x = false)
    (h : cover t marks = a ++ x :: b) :
    t[t.charsBefore (width a)]? = some x ∧ marks[t.charsBefore (width a)]? = some false := by
  have hspace : x ≠ ' ' := ne_of_not_blank hx rfl
  have hnl : x ≠ '\n' := ne_of_not_blank hx rfl
  induction t generalizing marks a with
  | nil => simp [cover] at h
  | cons c t ih =>
    rcases marks with _ | ⟨mark, marks⟩
    · simp [cover] at h
    -- Behind the first character, whatever stands for it, the rest is as wide as before.
    have later : ∀ {a' : Text}, width a = c.utf8Size + width a' → cover t marks = a' ++ x :: b →
        (c :: t)[charsBefore (c :: t) (width a)]? = some x ∧
          (mark :: marks)[charsBefore (c :: t) (width a)]? = some false := by
      intro a' ha hrest
      have hchars : charsBefore (c :: t) (c.utf8Size + width a') = charsBefore t (width a') + 1 := by
        simp [charsBefore]
      rw [ha, hchars, List.getElem?_cons_succ, List.getElem?_cons_succ]
      exact ih hrest
    rw [cover_cons] at h
    by_cases hc : mark = true ∧ c ≠ '\n'
    · rw [if_pos hc] at h
      rcases List.append_eq_append_iff.mp h with ⟨a', ha, hrest⟩ | ⟨m, hm, hrest⟩
      · exact later (by rw [ha, width_append, width_blank]) hrest
      · rcases m with _ | ⟨y, m⟩
        · rw [List.append_nil] at hm
          exact @later [] (by rw [← hm, width_blank]; rfl) hrest.symm
        · obtain ⟨rfl, -⟩ := List.cons.inj hrest
          have hy : x ∈ blank c := by rw [hm]; simp
          exact absurd (mem_spaces hy) hspace
    · rw [if_neg hc] at h
      rcases a with _ | ⟨y, a⟩
      · obtain ⟨rfl, -⟩ := List.cons.inj h
        have hmark : mark = false := by simpa [hnl] using hc
        simp [hmark]
      · obtain ⟨rfl, hrest⟩ := List.cons.inj h
        exact later rfl hrest

/-! ## Text without marks -/

/-- Without hyphens, a comment is neither opened nor closed. -/
theorem commented_of_not_mem (inside : Bool) {t : Text} (h : '-' ∉ t) :
    commented inside t = (List.replicate t.length inside, inside) := by
  induction t with
  | nil => simp [commented]
  | cons c t ih =>
    have hno : ∀ {mark : Text}, '-' ∈ mark → ¬ mark <+: c :: t := fun hm hp => h (hp.subset hm)
    have hrest := ih fun hm => h (List.mem_cons_of_mem _ hm)
    cases inside with
    | true => rw [commented_inside (hno (by decide)), hrest, List.length_cons, List.replicate_succ]
    | false => rw [commented_outside (hno (by decide)), hrest, List.length_cons, List.replicate_succ]

/-- A mark does not go on into such a text, unless that starts with the end of a closing mark. -/
theorem prefix_of_append_plain {mark q v : Text} (hmark : mark = opener ∨ mark = closer) (hq : q ≠ [])
    (hv : '-' ∉ v) (hgt : v.head? ≠ some '>') (h : mark <+: q ++ v) : mark <+: q := by
  rcases List.prefix_or_prefix_of_prefix h (List.prefix_append q v) with hp | ⟨w, rfl⟩
  · exact hp
  · have hw : w <+: v := (List.prefix_append_right_inj q).mp h
    -- What is left of the mark behind its first character ends in a hyphen, or is the bracket alone.
    have hleft : w = [] ∨ '-' ∈ w ∨ w.head? = some '>' := by
      obtain ⟨a, q, rfl⟩ := List.exists_cons_of_ne_nil hq
      rcases hmark with hm | hm
      · rcases q with _ | ⟨b, _ | ⟨c, _ | ⟨d, q⟩⟩⟩ <;> simp_all [opener, Text.ofString]
      · rcases q with _ | ⟨b, _ | ⟨c, q⟩⟩ <;> simp_all [closer, Text.ofString]
    rcases hleft with rfl | hm | hm
    · simp
    · exact absurd (hw.subset hm) hv
    · obtain ⟨u, rfl⟩ := hw
      exact absurd (by rw [List.head?_append, hm]; rfl) hgt

/-- Behind a text without hyphens, the same is open as before it. -/
theorem commented_append_plain (inside : Bool) (u : Text) {v : Text} (hv : '-' ∉ v)
    (hgt : v.head? ≠ some '>') :
    commented inside (u ++ v) =
      ((commented inside u).1 ++ List.replicate v.length (commented inside u).2, (commented inside u).2) := by
  fun_induction commented inside u with
  | case1 inside => exact commented_of_not_mem inside hv
  | case2 u ih => simp [commented, ih]
  | case3 c u hno ih =>
    have hopen : ¬ closer <+: c :: (u ++ v) := by
      intro hp
      obtain ⟨w, hw⟩ := @prefix_of_append_plain _ (c :: u) _ (.inr rfl) (by simp) hv hgt hp
      exact hno w (List.cons.inj hw).1.symm (List.cons.inj hw).2.symm
    rw [List.cons_append, commented_inside hopen, ih]
    rfl
  | case4 u ih => simp [commented, ih]
  | case5 c u hno ih =>
    have hclosed : ¬ opener <+: c :: (u ++ v) := by
      intro hp
      obtain ⟨w, hw⟩ := @prefix_of_append_plain _ (c :: u) _ (.inl rfl) (by simp) hv hgt hp
      exact hno w (List.cons.inj hw).1.symm (List.cons.inj hw).2.symm
    rw [List.cons_append, commented_outside hclosed, ih]
    rfl

/-- Without hyphens before it, a closing bracket is in a comment if one is open at the start. -/
theorem commented_gt (inside : Bool) {u : Text} (v : Text) (hu : '-' ∉ u) :
    (commented inside (u ++ '>' :: v)).1[u.length]? = some inside := by
  induction u with
  | nil =>
    cases inside with
    | true =>
      rw [List.nil_append, commented_inside (by simp [closer, Text.ofString])]
      rfl
    | false =>
      rw [List.nil_append, commented_outside (by simp [opener, Text.ofString])]
      rfl
  | cons c u ih =>
    simp only [List.mem_cons, not_or] at hu
    cases inside with
    | true =>
      rw [List.cons_append, commented_inside (by simp [closer, Text.ofString, hu.1])]
      exact ih hu.2
    | false =>
      have hclosed : ¬ opener <+: c :: (u ++ '>' :: v) := by
        intro hp
        rcases u with _ | ⟨d, _ | ⟨e, u⟩⟩ <;> simp_all [opener, Text.ofString]
      rw [List.cons_append, commented_outside hclosed]
      exact ih hu.2

/-! ## One comment -/

/-- The characters of a comment, its closing mark included, are all in it. -/
theorem commented_open {u : Text} (v : Text) (h : ∀ j, closer <+: u.drop j → j + 3 = u.length) {i : Nat}
    (hi : i < u.length) : (commented true (u ++ v)).1[i]? = some true := by
  induction u generalizing i with
  | nil => simp at hi
  | cons c u ih =>
    rw [List.cons_append]
    by_cases hclose : closer <+: c :: (u ++ v)
    · have hlen : (c :: u).length ≤ 3 := by
        apply Classical.byContradiction
        intro hlong
        have hp : closer <+: c :: u :=
          List.prefix_of_prefix_length_le hclose (List.prefix_append (c :: u) v) (by
            rw [show closer.length = 3 from rfl]
            omega)
        have := h 0 hp
        omega
      obtain ⟨r, hr⟩ := hclose
      rw [← hr, show closer ++ r = '-' :: '-' :: '>' :: r from rfl, commented]
      rcases i with _ | _ | _ | i
      · rfl
      · rfl
      · rfl
      · omega
    · rw [commented_inside hclose]
      rcases i with _ | i
      · rfl
      · refine ih (fun j hj => ?_) (by simpa using hi)
        have := h (j + 1) hj
        simp only [List.length_cons] at this
        omega

/-- Two openers do not overlap. -/
theorem opener_prefix_of_append {q w : Text} (hq : q ≠ []) (h : opener <+: q ++ (opener ++ w)) :
    opener <+: q := by
  rcases q with _ | ⟨a, _ | ⟨b, _ | ⟨c, _ | ⟨d, q⟩⟩⟩⟩
  · exact absurd rfl hq
  · simp [opener, Text.ofString] at h
  · simp [opener, Text.ofString] at h
  · simp [opener, Text.ofString] at h
  · exact List.prefix_of_prefix_length_le h (List.prefix_append _ _) (by simp [opener, Text.ofString])

/-- Nor do two closing marks. -/
theorem closer_prefix_of_append {q w : Text} (hq : q ≠ []) (h : closer <+: q ++ (closer ++ w)) :
    closer <+: q := by
  rcases q with _ | ⟨a, _ | ⟨b, _ | ⟨c, q⟩⟩⟩
  · exact absurd rfl hq
  · simp [closer, Text.ofString] at h
  · simp [closer, Text.ofString] at h
  · exact List.prefix_of_prefix_length_le h (List.prefix_append _ _) (by simp [closer, Text.ofString])

/-- All is in a comment from the first opener on. -/
theorem commented_of_opener {p u v : Text} (hp : ¬ opener <:+: p)
    (hu : ∀ j, closer <+: u.drop j → j + 3 = u.length) {i : Nat} (h1 : p.length ≤ i)
    (h2 : i < p.length + 4 + u.length) : (commented false (p ++ (opener ++ (u ++ v)))).1[i]? = some true := by
  induction p generalizing i with
  | nil =>
    rw [List.nil_append, show opener ++ (u ++ v) = '<' :: '!' :: '-' :: '-' :: (u ++ v) from rfl, commented]
    rcases i with _ | _ | _ | _ | i
    · rfl
    · rfl
    · rfl
    · rfl
    · exact commented_open v hu (by simp only [List.length_nil] at h2; omega)
  | cons c p ih =>
    have hclosed : ¬ opener <+: c :: (p ++ (opener ++ (u ++ v))) := fun h =>
      hp (@opener_prefix_of_append (c :: p) _ (by simp) h).isInfix
    rw [List.cons_append, commented_outside hclosed]
    rcases i with _ | i
    · simp at h1
    · refine ih (fun h => hp (h.trans (List.suffix_cons c p).isInfix)) ?_ ?_
      · simpa using h1
      · simp only [List.length_cons] at h2
        omega

end FrontLint.Strip
