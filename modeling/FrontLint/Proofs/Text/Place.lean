/-
  FrontLint.Proofs.Text.Place — where each character of a text stands: its line and its column,
  both counted from 0 here.

  `place t i` is the place of character number `i`, read off the text before it, and `at? t p` is
  the character that the lines of `t` have at place `p`. Proved:
  - `at?_place` / `exists_place_of_at?`: the two agree on every character that is no newline.
  - `place_lt` / `place_inj`: a later character has a later place, so a place has one character.
  - `place_append`: a text that starts at the beginning of a line has its places shifted by lines
    only.
  - `getElem?_line` / `place_line`: the characters of a line, and their places.
  - `place_congr` / `lines_map_length_congr`: places and the lengths of lines depend on where the
    newlines are, and on nothing else.
-/

import FrontLint.Position
import Mathlib.Data.List.TakeWhile

namespace FrontLint.Text

/-! ## Newlines and the last line -/

@[simp] theorem newlines_nil : newlines [] = 0 := rfl

@[simp] theorem newlines_cons_newline (t : Text) : newlines ('\n' :: t) = newlines t + 1 := by
  simp [newlines]

theorem newlines_cons_of_ne {c : Char} (h : c ≠ '\n') (t : Text) : newlines (c :: t) = newlines t := by
  unfold newlines
  exact List.count_cons_of_ne h

@[simp] theorem newlines_append (a b : Text) : newlines (a ++ b) = newlines a + newlines b :=
  List.count_append

theorem newlines_eq_zero {t : Text} : newlines t = 0 ↔ '\n' ∉ t := List.count_eq_zero

theorem newlines_take_le (t : Text) {i j : Nat} (h : i ≤ j) :
    newlines (t.take i) ≤ newlines (t.take j) :=
  (List.take_sublist_take_left h).count_le _

theorem newlines_take_le_self (t : Text) (i : Nat) : newlines (t.take i) ≤ newlines t :=
  (List.take_sublist i t).count_le _

@[simp] theorem lastLine_nil : lastLine [] = [] := rfl

theorem lastLine_append_of_not_mem (a : Text) {b : Text} (h : '\n' ∉ b) :
    lastLine (a ++ b) = lastLine a ++ b := by
  unfold lastLine
  rw [List.reverse_append, List.takeWhile_append_of_pos]
  · simp
  · intro c hc
    have : c ≠ '\n' := fun e => h (e ▸ List.mem_reverse.mp hc)
    simpa using this

theorem lastLine_append_of_mem (a : Text) {b : Text} (h : '\n' ∈ b) :
    lastLine (a ++ b) = lastLine b := by
  obtain ⟨x, y, rfl⟩ := List.append_of_mem h
  -- Reading backwards, the walk stops in `b` and never reaches `a`.
  have stops : ∀ (u v : Text), (u ++ '\n' :: v).takeWhile (· ≠ '\n') = u.takeWhile (· ≠ '\n') := by
    intro u v
    induction u with
    | nil => simp
    | cons c u ih =>
      by_cases e : c = '\n'
      · simp [e]
      · simp only [List.cons_append, List.takeWhile_cons, ih]
  unfold lastLine
  simp only [List.reverse_append, List.reverse_cons, List.append_assoc, List.cons_append,
    List.nil_append]
  rw [stops, stops]

theorem lastLine_of_not_mem {t : Text} (h : '\n' ∉ t) : lastLine t = t := by
  simpa using lastLine_append_of_not_mem [] h

@[simp] theorem lastLine_cons_newline (t : Text) : lastLine ('\n' :: t) = lastLine t := by
  by_cases h : '\n' ∈ t
  · exact lastLine_append_of_mem ['\n'] h
  · rw [show '\n' :: t = ['\n'] ++ t from rfl, lastLine_append_of_not_mem _ h, lastLine_of_not_mem h]
    rfl

theorem newline_not_mem_lastLine (t : Text) : '\n' ∉ lastLine t := by
  intro h
  have := List.mem_takeWhile_imp (List.mem_reverse.mp h)
  simp at this

/-- A text is what comes before its last line, and its last line. -/
theorem exists_eq_append_lastLine (t : Text) :
    ∃ a, t = a ++ lastLine t ∧ lastLine a = [] ∧ newlines a = newlines t := by
  refine ⟨(t.reverse.dropWhile (· ≠ '\n')).reverse, ?_, ?_, ?_⟩
  · unfold lastLine
    rw [← List.reverse_append, List.takeWhile_append_dropWhile, List.reverse_reverse]
  · unfold lastLine
    rw [List.reverse_reverse]
    rcases h : t.reverse.dropWhile (· ≠ '\n') with _ | ⟨c, r⟩
    · rfl
    · have := List.head?_dropWhile_not (· ≠ '\n') t.reverse
      rw [h] at this
      have hc : c = '\n' := by simpa using this
      simp [hc]
  · have h : t.reverse = t.reverse.takeWhile (· ≠ '\n') ++ t.reverse.dropWhile (· ≠ '\n') :=
      List.takeWhile_append_dropWhile.symm
    have hn := newline_not_mem_lastLine t
    have h0 : List.count '\n' (t.reverse.takeWhile (· ≠ '\n')) = 0 := by
      apply List.count_eq_zero.mpr
      intro hm
      exact hn (List.mem_reverse.mpr hm)
    show List.count '\n' _ = List.count '\n' t
    rw [List.count_reverse, ← List.count_reverse (l := t), h, List.count_append, h0]
    simp

/-! ## Lines -/

-- The equations of `lines` are worked out here once, for the proofs that follow.
attribute [local simp] lines in
theorem lines_ne_nil (t : Text) : lines t ≠ [] := by
  cases t with
  | nil => simp [lines]
  | cons c t =>
    unfold lines
    split
    · simp
    · split <;> simp

@[simp] theorem lines_cons_newline (t : Text) : lines ('\n' :: t) = [] :: lines t := by
  rw [lines, if_pos rfl]

theorem lines_cons_of_ne {c : Char} (h : c ≠ '\n') {t l : Text} {ls : List Text}
    (ht : lines t = l :: ls) : lines (c :: t) = (c :: l) :: ls := by
  rw [lines, if_neg h, ht]

/-- The first line of a text, and the lines after it. -/
theorem exists_lines_eq_cons (t : Text) : ∃ l ls, lines t = l :: ls :=
  List.exists_cons_of_ne_nil (lines_ne_nil t)

theorem length_lines (t : Text) : (lines t).length = newlines t + 1 := by
  induction t with
  | nil => rfl
  | cons c t ih =>
    by_cases h : c = '\n'
    · subst h
      simp [ih]
    · obtain ⟨l, ls, ht⟩ := exists_lines_eq_cons t
      rw [lines_cons_of_ne h ht, newlines_cons_of_ne h, ← ih, ht]
      rfl

theorem newline_not_mem_of_mem_lines {t l : Text} (h : l ∈ lines t) : '\n' ∉ l := by
  induction t generalizing l with
  | nil =>
    simp only [lines, List.mem_singleton] at h
    subst h
    simp
  | cons c t ih =>
    by_cases hc : c = '\n'
    · subst hc
      rw [lines_cons_newline] at h
      rcases List.mem_cons.mp h with rfl | h
      · simp
      · exact ih h
    · obtain ⟨m, ms, ht⟩ := exists_lines_eq_cons t
      rw [lines_cons_of_ne hc ht] at h
      rcases List.mem_cons.mp h with rfl | h
      · have := @ih m (by simp [ht])
        simp [Ne.symm hc, this]
      · exact ih (by simp [ht, h])

theorem unlines_lines (t : Text) : unlines (lines t) = t := by
  induction t with
  | nil => rfl
  | cons c t ih =>
    obtain ⟨l, ls, ht⟩ := exists_lines_eq_cons t
    rw [ht] at ih
    by_cases h : c = '\n'
    · subst h
      rw [lines_cons_newline, ht, ← ih]
      rfl
    · rw [lines_cons_of_ne h ht, ← ih]
      cases ls <;> rfl

/-- A text without newlines goes before the first line of another. -/
theorem lines_append_of_not_mem {a : Text} (ha : '\n' ∉ a) {b l : Text} {ls : List Text}
    (hb : lines b = l :: ls) : lines (a ++ b) = (a ++ l) :: ls := by
  induction a with
  | nil => exact hb
  | cons c a ih =>
    simp only [List.mem_cons, not_or] at ha
    exact lines_cons_of_ne (Ne.symm ha.1) (ih ha.2)

/-- What has no newline ends before the next one. -/
theorem prefix_of_append_newline {lead line rest : Text} (hlead : '\n' ∉ lead)
    (h : lead <+: line ++ '\n' :: rest) : lead <+: line := by
  rcases List.prefix_or_prefix_of_prefix h (List.prefix_append line _) with h' | ⟨w, rfl⟩
  · exact h'
  · have hw := (List.prefix_append_right_inj line).mp h
    rcases w with _ | ⟨x, w⟩
    · simp
    · obtain ⟨rfl, -⟩ := List.cons_prefix_cons.mp hw
      simp at hlead

/-- The line that a place of a text lies on: what stands since the last newline, and what comes up
to the next one. -/
theorem lines_append_getElem? (a b : Text) :
    (lines (a ++ b))[newlines a]? = some (lastLine a ++ b.takeWhile (· ≠ '\n')) := by
  induction a with
  | nil =>
    induction b with
    | nil => rfl
    | cons c b ih =>
      by_cases h : c = '\n'
      · simp [h]
      · obtain ⟨l, ls, hb⟩ := exists_lines_eq_cons b
        rw [List.nil_append] at ih ⊢
        rw [hb] at ih
        rw [lines_cons_of_ne h hb]
        simp only [newlines_nil, List.getElem?_cons_zero, lastLine_nil, List.nil_append,
          Option.some.injEq] at ih ⊢
        rw [ih]
        simp [h]
  | cons c a ih =>
    by_cases h : c = '\n'
    · subst h
      rw [lastLine_cons_newline, ← ih]
      simp
    · obtain ⟨l, ls, ht⟩ := exists_lines_eq_cons (a ++ b)
      rw [List.cons_append, lines_cons_of_ne h ht, newlines_cons_of_ne h]
      rw [ht] at ih
      by_cases hm : '\n' ∈ a
      · rw [show c :: a = [c] ++ a from rfl, lastLine_append_of_mem _ hm, ← ih]
        have : newlines a ≠ 0 := fun e => newlines_eq_zero.mp e hm
        obtain ⟨n, hn⟩ := Nat.exists_eq_succ_of_ne_zero this
        simp [hn]
      · have hca : '\n' ∉ c :: a := by simp [Ne.symm h, hm]
        rw [newlines_eq_zero.mpr hm] at ih ⊢
        rw [lastLine_of_not_mem hca]
        rw [lastLine_of_not_mem hm] at ih
        simp only [List.getElem?_cons_zero, Option.some.injEq] at ih ⊢
        rw [ih, List.cons_append]

/-- Lines, each ended by a newline. -/
def ended (ls : List Text) : Text := ls.flatMap (· ++ ['\n'])

theorem ended_cons (l : Text) (ls : List Text) : ended (l :: ls) = l ++ '\n' :: ended ls := by
  simp [ended]

theorem ended_append (ls ms : List Text) : ended (ls ++ ms) = ended ls ++ ended ms := List.flatMap_append

theorem lastLine_ended (ls : List Text) : lastLine (ended ls) = [] := by
  induction ls with
  | nil => rfl
  | cons l ls ih =>
    rw [ended_cons, lastLine_append_of_mem l List.mem_cons_self, lastLine_cons_newline, ih]

theorem newlines_ended {ls : List Text} (h : ∀ l ∈ ls, '\n' ∉ l) : newlines (ended ls) = ls.length := by
  induction ls with
  | nil => rfl
  | cons l ls ih =>
    rw [ended_cons, newlines_append, newlines_eq_zero.mpr (h l List.mem_cons_self), newlines_cons_newline,
      ih fun m hm => h m (List.mem_cons_of_mem _ hm), Nat.zero_add, List.length_cons]

/-- A text is the lines before one of its lines, this line, and what stands behind it. -/
theorem exists_append_of_lines_getElem? {t line : Text} {k : Nat} (h : (lines t)[k]? = some line) :
    ∃ b, t = ended ((lines t).take k) ++ (line ++ b) ∧ ∀ c ∈ b.head?, c = '\n' := by
  have hlist : ∀ {ls : List Text} {k : Nat}, ls[k]? = some line →
      ∃ b, unlines ls = ended (ls.take k) ++ (line ++ b) ∧ ∀ c ∈ b.head?, c = '\n' := by
    intro ls
    induction ls with
    | nil => simp
    | cons l ls ih =>
      intro k hk
      rcases k with _ | k
      · obtain rfl : l = line := by simpa using hk
        rcases ls with _ | ⟨m, ls⟩
        · exact ⟨[], by simp [unlines, ended], by simp⟩
        · exact ⟨'\n' :: unlines (m :: ls), rfl, by simp⟩
      · rw [List.getElem?_cons_succ] at hk
        obtain ⟨b, hb, hhead⟩ := ih hk
        have hne : ls ≠ [] := fun he => by simp [he] at hk
        refine ⟨b, ?_, hhead⟩
        rw [List.take_succ_cons, ended_cons, List.append_assoc, List.cons_append, ← hb, unlines]
        exact fun he => hne he
  obtain ⟨b, hb, hhead⟩ := hlist h
  rw [unlines_lines] at hb
  exact ⟨b, hb, hhead⟩

/-! ## Places -/

/-- The place of character number `i`. -/
def place (t : Text) (i : Nat) : LineCol := ⟨newlines (t.take i), (lastLine (t.take i)).length⟩

/-- The character that the lines of a text have at a place. -/
def at? (t : Text) (p : LineCol) : Option Char := ((lines t)[p.line]?).bind (·[p.column]?)

theorem lineCol_eq_place (t : Text) (offset : Nat) :
    t.lineCol offset = ⟨(t.place (t.charsBefore offset)).line + 1,
      (t.place (t.charsBefore offset)).column + 1⟩ := rfl

theorem at?_place {t : Text} {i : Nat} {c : Char} (h : t[i]? = some c) (hc : c ≠ '\n') :
    t.at? (t.place i) = some c := by
  obtain ⟨hi, rfl⟩ := List.getElem?_eq_some_iff.mp h
  have hl := lines_append_getElem? (t.take i) (t.drop i)
  have hw : (t[i] :: t.drop (i + 1)).takeWhile (· ≠ '\n') =
      t[i] :: (t.drop (i + 1)).takeWhile (· ≠ '\n') := List.takeWhile_cons_of_pos (by simpa using hc)
  rw [List.take_append_drop, List.drop_eq_getElem_cons hi, hw] at hl
  simp only [at?, place, hl, Option.bind_some, List.getElem?_append_right (Nat.le_refl _),
    Nat.sub_self, List.getElem?_cons_zero]

theorem exists_place_of_at? {t : Text} {p : LineCol} {c : Char} (h : t.at? p = some c) :
    ∃ i, t[i]? = some c ∧ t.place i = p ∧ c ≠ '\n' := by
  obtain ⟨line, column⟩ := p
  simp only [at?, place, LineCol.mk.injEq, and_assoc] at h ⊢
  induction t generalizing line column with
  | nil =>
    rcases line with _ | line <;> simp [lines] at h
  | cons d t ih =>
    by_cases hd : d = '\n'
    · subst hd
      rcases line with _ | line
      · simp at h
      · obtain ⟨i, h1, h2, h3, h4⟩ := ih line column (by simpa using h)
        exact ⟨i + 1, by simpa using h1, by simpa using h2, by simpa using h3, h4⟩
    · obtain ⟨l, ls, ht⟩ := exists_lines_eq_cons t
      rw [lines_cons_of_ne hd ht] at h
      -- On the first line the column moves on by one, below it nothing moves.
      rcases line with _ | line
      · rcases column with _ | column
        · refine ⟨0, by simpa using h, rfl, rfl, ?_⟩
          have : d = c := by simpa using h
          exact this ▸ hd
        · obtain ⟨i, h1, h2, h3, h4⟩ := ih 0 column (by simpa [ht] using h)
          have hm : '\n' ∉ t.take i := newlines_eq_zero.mp h2
          have hdm : '\n' ∉ d :: t.take i := by simp [Ne.symm hd, hm]
          refine ⟨i + 1, by simpa using h1, ?_, ?_, h4⟩
          · rw [List.take_succ_cons, newlines_cons_of_ne hd, h2]
          · rw [List.take_succ_cons, lastLine_of_not_mem hdm]
            rw [lastLine_of_not_mem hm] at h3
            simp [h3]
      · obtain ⟨i, h1, h2, h3, h4⟩ := ih (line + 1) column (by simpa [ht] using h)
        have hm : '\n' ∈ t.take i := by
          apply Classical.byContradiction
          intro hn
          rw [newlines_eq_zero.mpr hn] at h2
          omega
        refine ⟨i + 1, by simpa using h1, ?_, ?_, h4⟩
        · rw [List.take_succ_cons, newlines_cons_of_ne hd, h2]
        · rw [List.take_succ_cons, show d :: t.take i = [d] ++ t.take i from rfl,
            lastLine_append_of_mem _ hm, h3]

/-- A later character has a later place. -/
theorem place_lt {t : Text} {i j : Nat} (hij : i < j) (hj : j ≤ t.length) :
    (t.place i).line < (t.place j).line ∨
      (t.place i).line = (t.place j).line ∧ (t.place i).column < (t.place j).column := by
  have hsplit : t.take j = t.take i ++ (t.take j).drop i := by
    have h := (List.take_append_drop i (t.take j)).symm
    rwa [List.take_take, Nat.min_eq_left (by omega)] at h
  have hlen : 0 < ((t.take j).drop i).length := by
    simp only [List.length_drop, List.length_take]
    omega
  simp only [place]
  rw [hsplit]
  by_cases hm : '\n' ∈ (t.take j).drop i
  · left
    have : newlines ((t.take j).drop i) ≠ 0 := fun e => newlines_eq_zero.mp e hm
    rw [newlines_append]
    omega
  · right
    rw [newlines_append, newlines_eq_zero.mpr hm, lastLine_append_of_not_mem _ hm, List.length_append]
    omega

theorem lt_of_line_lt {t : Text} {i j : Nat} (h : (t.place i).line < (t.place j).line) : i < j := by
  apply Classical.byContradiction
  intro hle
  have := newlines_take_le t (Nat.le_of_not_lt hle)
  simp only [place] at h
  omega

/-- The place behind a character that is no newline. -/
theorem place_succ {t : Text} {i : Nat} {c : Char} (h : t[i]? = some c) (hc : c ≠ '\n') :
    t.place (i + 1) = ⟨(t.place i).line, (t.place i).column + 1⟩ := by
  have hm : '\n' ∉ [c] := by simpa using Ne.symm hc
  simp only [place, List.take_add_one, h, Option.toList_some]
  rw [newlines_append, newlines_eq_zero.mpr hm, lastLine_append_of_not_mem _ hm, List.length_append]
  rfl

theorem place_inj {t : Text} {i j : Nat} (hi : i ≤ t.length) (hj : j ≤ t.length)
    (h : t.place i = t.place j) : i = j := by
  rcases Nat.lt_trichotomy i j with hlt | rfl | hlt
  · have := place_lt hlt hj
    rw [h] at this
    omega
  · rfl
  · have := place_lt hlt hi
    rw [h] at this
    omega

/-- A text that follows whole lines has its places below them, at the same columns. -/
theorem place_append {a : Text} (ha : lastLine a = []) (b : Text) (i : Nat) :
    (a ++ b).place (a.length + i) = ⟨newlines a + (b.place i).line, (b.place i).column⟩ := by
  simp only [place, List.take_length_add_append, newlines_append, LineCol.mk.injEq, true_and]
  by_cases hm : '\n' ∈ b.take i
  · rw [lastLine_append_of_mem _ hm]
  · rw [lastLine_append_of_not_mem _ hm, ha, lastLine_of_not_mem hm, List.nil_append]

/-- A line with what comes before it. -/
theorem ended_append_line {t line : Text} {k : Nat} (h : t.lines[k]? = some line) :
    ended (t.lines.take k) ++ line <+: t := by
  obtain ⟨b, ht, -⟩ := exists_append_of_lines_getElem? h
  exact ⟨b, by rw [List.append_assoc, ← ht]⟩

theorem take_ended {t line : Text} {k : Nat} (h : t.lines[k]? = some line) :
    t.take (ended (t.lines.take k)).length = ended (t.lines.take k) :=
  (List.prefix_iff_eq_take.mp ((List.prefix_append _ _).trans (ended_append_line h))).symm

/-- The characters of a line in the text. -/
theorem getElem?_line {t raw : Text} {k j : Nat} (h : t.lines[k]? = some raw) (hj : j < raw.length) :
    t[(ended (t.lines.take k)).length + j]? = raw[j]? := by
  obtain ⟨b, hb⟩ := ended_append_line h
  generalize ended (t.lines.take k) = front at hb ⊢
  rw [← hb, List.append_assoc, List.getElem?_append_right (by omega), Nat.add_sub_cancel_left,
    List.getElem?_append_left hj]

theorem place_line {t line : Text} {k j : Nat} (h : t.lines[k]? = some line) (hj : j ≤ line.length) :
    t.place ((ended (t.lines.take k)).length + j) = ⟨k, j⟩ := by
  obtain ⟨b, ht, -⟩ := exists_append_of_lines_getElem? h
  obtain ⟨hk, -⟩ := List.getElem?_eq_some_iff.mp h
  have hlines : ∀ l ∈ t.lines.take k, '\n' ∉ l :=
    fun l hl => newline_not_mem_of_mem_lines (List.mem_of_mem_take hl)
  have hnone : '\n' ∉ line.take j := fun hm =>
    newline_not_mem_of_mem_lines (List.mem_of_getElem? h) (List.mem_of_mem_take hm)
  have hplace : (line ++ b).place j = ⟨0, j⟩ := by
    rw [place, List.take_append_of_le_length hj, newlines_eq_zero.mpr hnone, lastLine_of_not_mem hnone,
      List.length_take, Nat.min_eq_left hj]
  have hwhole := place_append (lastLine_ended (t.lines.take k)) (line ++ b) j
  rwa [← ht, hplace, newlines_ended hlines, List.length_take, Nat.min_eq_left (Nat.le_of_lt hk)] at hwhole

/-! ## What places depend on -/

/-- Which characters of a text are newlines. -/
def breaks (t : Text) : List Bool := t.map (· == '\n')

theorem newlines_eq_count_breaks (t : Text) : newlines t = (breaks t).count true := by
  induction t with
  | nil => rfl
  | cons c t ih =>
    by_cases h : c = '\n'
    · subst h
      simp [ih, breaks]
    · rw [newlines_cons_of_ne h, ih]
      simp [breaks, h]

theorem length_lastLine_eq (t : Text) :
    (lastLine t).length = ((breaks t).reverse.takeWhile (· == false)).length := by
  unfold lastLine breaks
  rw [List.length_reverse, ← List.map_reverse, List.takeWhile_map, List.length_map]
  congr 2
  funext c
  by_cases h : c = '\n' <;> simp [h]

theorem place_congr {u v : Text} (h : breaks u = breaks v) (i : Nat) : u.place i = v.place i := by
  have ht : breaks (u.take i) = breaks (v.take i) := by
    unfold breaks at h ⊢
    rw [List.map_take, List.map_take, h]
  simp only [place, newlines_eq_count_breaks, length_lastLine_eq, ht]

theorem lines_map_length_congr {u v : Text} (h : breaks u = breaks v) :
    (lines u).map List.length = (lines v).map List.length := by
  induction u generalizing v with
  | nil =>
    have : v = [] := by simpa [breaks] using h.symm
    rw [this]
  | cons c u ih =>
    rcases v with _ | ⟨d, v⟩
    · simp [breaks] at h
    · have hcd : (c == '\n') = (d == '\n') := by simpa [breaks] using (List.cons.inj h).1
      have htail : breaks u = breaks v := (List.cons.inj h).2
      by_cases hc : c = '\n'
      · have hd : d = '\n' := by simpa [hc] using hcd.symm
        subst hc hd
        simp [ih htail]
      · have hd : d ≠ '\n' := by
          intro e
          simp [hc, e] at hcd
        obtain ⟨l, ls, hu⟩ := exists_lines_eq_cons u
        obtain ⟨m, ms, hv⟩ := exists_lines_eq_cons v
        have := ih htail
        rw [hu, hv] at this
        rw [lines_cons_of_ne hc hu, lines_cons_of_ne hd hv]
        simpa using this

end FrontLint.Text
