/-
  FrontLint.Proofs.Block.Tag — the shape of tags.

  `IsOpening` and `IsClosing` say which texts are tags of a name; the lengths that are read are those of
  such texts (`openLength?_iff`, `closeLength?_iff`).

  A name is plain if none of its letters can be read from a `<` or a `>`: if it has neither
  (`plainName_of_not_mem`). A tag of a plain name runs to its first `>` (`RunsToGt`), so two tags that
  overlap end at the same place (`RunsToGt.end_eq`), and both are self-closing or neither
  (`RunsToGt.isSelfClosing_eq`). What a closing tag has behind a newline is blank, up to its last
  character (`closingTag_of_closeLength?`).
-/

import FrontLint.Block.Component
import Mathlib.Data.List.Forall2
import Mathlib.Data.List.TakeWhile

namespace FrontLint.Block

open FrontLint.Text

/-! ## Plain names -/

def PlainName (name : Text) : Prop := ∀ a ∈ name, sameFold a '<' = false ∧ sameFold a '>' = false

/-- Capital letters are the first characters with another folded form, and the small ones the first folded
forms. All folded forms are characters. -/
theorem foldRuns_bounds : ∀ r ∈ foldRuns.toList, 0x41 ≤ r.first ∧ 0x61 ≤ r.image ∧
    (r.image + (r.last - r.first) < 0xD800 ∨
      0xDFFF < r.image ∧ r.image + (r.last - r.first) < 0x110000) := by
  have h : foldRuns.toList.all (fun r => decide (0x41 ≤ r.first ∧ 0x61 ≤ r.image ∧
      (r.image + (r.last - r.first) < 0xD800 ∨
        0xDFFF < r.image ∧ r.image + (r.last - r.first) < 0x110000))) = true := by
    decide +kernel
  rw [List.all_eq_true] at h
  intro r hr
  exact of_decide_eq_true (h r hr)

theorem findSome?_fold?_eq_none {runs : Array FoldRun} {n : Nat} (h : ∀ r ∈ runs.toList, n < r.first) :
    runs.findSome? (·.fold? n) = none := by
  rw [← Array.findSome?_toList, List.findSome?_eq_none_iff]
  intro r hr
  have := h r hr
  rw [FoldRun.fold?, if_neg (by omega)]

theorem fold_of_lt {c : Char} (hc : c.toNat < 0x41) : fold c = c := by
  unfold fold
  rw [findSome?_fold?_eq_none]
  intro r hr
  have := (foldRuns_bounds r hr).1
  omega

theorem exists_run_of_findSome? {runs : Array FoldRun} {n m : Nat} (h : runs.findSome? (·.fold? n) = some m) :
    ∃ r ∈ runs.toList, r.image ≤ m ∧ m ≤ r.image + (r.last - r.first) := by
  rw [← Array.findSome?_toList] at h
  obtain ⟨r, hr, hfold⟩ := List.exists_of_findSome?_eq_some h
  refine ⟨r, hr, ?_⟩
  unfold FoldRun.fold? at hfold
  split at hfold
  · have := Option.some.inj hfold
    omega
  · cases hfold

/-- No character before the letters is the folded form of another. -/
theorem eq_of_fold_lt {a b : Char} (hb : b.toNat < 0x41) (h : fold a = b) : a = b := by
  unfold fold at h
  split at h
  · rename_i n hn
    obtain ⟨r, hr, hle, hlast⟩ := exists_run_of_findSome? hn
    obtain ⟨-, himage, hvalid⟩ := foldRuns_bounds r hr
    have hchar : n.isValidChar := by
      unfold Nat.isValidChar
      omega
    have hcode : b.toNat = n := by
      rw [← h, Char.ofNat, dif_pos hchar]
      rfl
    omega
  · exact h

/-- A character before the letters is read for itself only. -/
theorem eq_of_sameFold {a b : Char} (hb : b.toNat < 0x41) (h : sameFold a b = true) : a = b := by
  simp only [sameFold, Bool.or_eq_true, beq_iff_eq] at h
  rcases h with h | h
  · exact h
  · rw [fold_of_lt hb] at h
    exact eq_of_fold_lt hb h

theorem plainName_of_not_mem {name : Text} (hlt : '<' ∉ name) (hgt : '>' ∉ name) : PlainName name := by
  intro a ha
  constructor
  · rw [Bool.eq_false_iff]
    intro h
    exact hlt (eq_of_sameFold (by decide) h ▸ ha)
  · rw [Bool.eq_false_iff]
    intro h
    exact hgt (eq_of_sameFold (by decide) h ▸ ha)

theorem plainName_tag (kind : BlockKind) : PlainName kind.tag := by
  cases kind
  · exact plainName_of_not_mem (by decide) (by decide)
  · exact plainName_of_not_mem (by decide) (by decide)

/-! ## One tag -/

/-- Text `w` has the letters of a name, up to case. -/
def NamedLike (name w : Text) : Prop := List.Forall₂ (fun a c => sameFold a c = true) name w

theorem NamedLike.length_eq {name w : Text} (h : NamedLike name w) : w.length = name.length :=
  (List.Forall₂.length_eq h).symm

/-- A character before the letters stands in what is read for a name only if it is in the name. -/
theorem NamedLike.mem_of_mem {name w : Text} (h : NamedLike name w) {b : Char} (hb : b.toNat < 0x41)
    (hw : b ∈ w) : b ∈ name := by
  induction h with
  | nil => cases hw
  | cons hac _ ih =>
    rcases List.mem_cons.mp hw with rfl | hw
    · rw [eq_of_sameFold hb hac]
      exact List.mem_cons_self
    · exact List.mem_cons_of_mem _ (ih hw)

theorem afterName?_eq_some_iff {name t r : Text} :
    afterName? name t = some r ↔ ∃ w, t = w ++ r ∧ NamedLike name w := by
  constructor
  · intro h
    induction name generalizing t with
    | nil =>
      cases h
      exact ⟨[], rfl, .nil⟩
    | cons a name ih =>
      rcases t with _ | ⟨c, t⟩
      · simp [afterName?] at h
      · rw [afterName?] at h
        split at h
        · rename_i hs
          obtain ⟨w, rfl, hw⟩ := ih h
          exact ⟨c :: w, rfl, .cons hs hw⟩
        · cases h
  · rintro ⟨w, rfl, hw⟩
    induction hw with
    | nil => rfl
    | cons hac _ ih => rw [List.cons_append, afterName?, if_pos hac, ih]

/-- What is read for a plain name has no `>` in it. -/
theorem NamedLike.gt_not_mem {name w : Text} (hp : PlainName name) (h : NamedLike name w) : '>' ∉ w := by
  intro hw
  have hname := h.mem_of_mem (by decide) hw
  have hself := (hp '>' hname).2
  simp [sameFold] at hself

theorem throughGt?_eq_some {t : Text} {n : Nat} (h : throughGt? t = some n) :
    ∃ w r, t = w ++ '>' :: r ∧ n = w.length + 1 ∧ '>' ∉ w := by
  induction t generalizing n with
  | nil => simp [throughGt?] at h
  | cons c t ih =>
    rw [throughGt?] at h
    split at h
    · rename_i hc
      cases h
      exact ⟨[], t, by rw [hc]; rfl, rfl, by simp⟩
    · rename_i hc
      obtain ⟨m, hm, rfl⟩ := Option.map_eq_some_iff.mp h
      obtain ⟨w, r, rfl, rfl, hw⟩ := ih hm
      exact ⟨c :: w, r, rfl, rfl, by simp [Ne.symm hc, hw]⟩

theorem throughGt?_append {w : Text} (hw : '>' ∉ w) (r : Text) : throughGt? (w ++ '>' :: r) = some (w.length + 1) := by
  induction w with
  | nil => rfl
  | cons c w ih =>
    rw [List.mem_cons, not_or] at hw
    rw [List.cons_append, throughGt?, if_neg (Ne.symm hw.1), ih hw.2]
    rfl

theorem isBlank_ne_gt {c : Char} (h : isBlank c = true) : c ≠ '>' := by
  rintro rfl
  revert h
  decide

theorem openLength?_eq_some_iff {name t : Text} {n : Nat} :
    openLength? name t = some n ↔ ∃ u c rest, t = '<' :: u ∧ afterName? name u = some (c :: rest) ∧
      (c = '>' ∧ n = name.length + 2 ∨
        c ≠ '>' ∧ isBlank c = true ∧ ∃ m, throughGt? rest = some m ∧ n = m + (name.length + 2)) := by
  constructor
  · intro h
    unfold openLength? at h
    split at h
    · rename_i u
      split at h
      · rename_i c rest ha
        refine ⟨u, c, rest, rfl, ha, ?_⟩
        split at h
        · rename_i hc
          exact .inl ⟨hc, (Option.some.inj h).symm⟩
        · rename_i hc
          split at h
          · rename_i hb
            obtain ⟨m, hm, rfl⟩ := Option.map_eq_some_iff.mp h
            exact .inr ⟨hc, hb, m, hm, rfl⟩
          · cases h
      · cases h
    · cases h
  · rintro ⟨u, c, rest, rfl, ha, ⟨hc, rfl⟩ | ⟨hc, hb, m, hm, rfl⟩⟩
    · simp [openLength?, ha, hc]
    · simp [openLength?, ha, hc, hb, hm]

/-- An opening tag: the name right before its `>`, or a blank behind the name and anything up to the
first `>`. -/
def IsOpening (name tag : Text) : Prop := ∃ w more, tag = '<' :: (w ++ (more ++ ['>'])) ∧ NamedLike name w ∧
  (more = [] ∨ ∃ b attributes, more = b :: attributes ∧ isBlank b = true ∧ '>' ∉ attributes)

/-- A closing tag: the name and blanks between its marks. -/
def IsClosing (name tag : Text) : Prop := ∃ w blanks, tag = '<' :: '/' :: (w ++ (blanks ++ ['>'])) ∧
  NamedLike name w ∧ ∀ c ∈ blanks, isBlank c = true

theorem openLength?_iff {name t : Text} {n : Nat} :
    openLength? name t = some n ↔ ∃ tag rest, t = tag ++ rest ∧ tag.length = n ∧ IsOpening name tag := by
  rw [openLength?_eq_some_iff]
  constructor
  · rintro ⟨u, c, rest, rfl, ha, hcase⟩
    obtain ⟨w, rfl, hw⟩ := afterName?_eq_some_iff.mp ha
    have hlen := hw.length_eq
    rcases hcase with ⟨rfl, rfl⟩ | ⟨-, hb, m, hm, rfl⟩
    · refine ⟨'<' :: (w ++ ['>']), rest, by simp, ?_, w, [], rfl, hw, .inl rfl⟩
      simp only [List.length_cons, List.length_append, List.length_nil]
      omega
    · obtain ⟨v, r, rfl, rfl, hv⟩ := throughGt?_eq_some hm
      refine ⟨'<' :: (w ++ (c :: v ++ ['>'])), r, by simp, ?_, w, c :: v, rfl, hw, .inr ⟨c, v, rfl, hb, hv⟩⟩
      simp only [List.length_cons, List.length_append, List.length_nil]
      omega
  · rintro ⟨tag, rest, rfl, rfl, w, more, rfl, hw, hmore⟩
    have hlen := hw.length_eq
    rcases hmore with rfl | ⟨b, attributes, rfl, hb, hgt⟩
    · refine ⟨w ++ '>' :: rest, '>', rest, by simp, afterName?_eq_some_iff.mpr ⟨w, rfl, hw⟩, .inl ⟨rfl, ?_⟩⟩
      simp only [List.length_cons, List.length_append, List.length_nil]
      omega
    · refine ⟨w ++ b :: (attributes ++ '>' :: rest), b, attributes ++ '>' :: rest, by simp,
        afterName?_eq_some_iff.mpr ⟨w, rfl, hw⟩,
        .inr ⟨isBlank_ne_gt hb, hb, attributes.length + 1, throughGt?_append hgt rest, ?_⟩⟩
      simp only [List.length_cons, List.length_append, List.length_nil]
      omega

theorem closeLength?_iff {name t : Text} {n : Nat} :
    closeLength? name t = some n ↔ ∃ tag rest, t = tag ++ rest ∧ tag.length = n ∧ IsClosing name tag := by
  constructor
  · intro h
    unfold closeLength? at h
    split at h
    · rename_i u
      split at h
      · rename_i rest ha
        obtain ⟨w, rfl, hw⟩ := afterName?_eq_some_iff.mp ha
        have hlen := hw.length_eq
        split at h
        · rename_i r hr
          cases h
          have hrest : rest = rest.takeWhile isBlank ++ '>' :: r := by
            rw [← hr, List.takeWhile_append_dropWhile]
          refine ⟨'<' :: '/' :: (w ++ (rest.takeWhile isBlank ++ ['>'])), r, ?_, ?_, w, rest.takeWhile isBlank, rfl,
            hw, fun c hc => List.mem_takeWhile_imp hc⟩
          · have hword : w ++ rest = w ++ (rest.takeWhile isBlank ++ '>' :: r) := congrArg (w ++ ·) hrest
            rw [hword]
            simp
          · simp only [List.length_cons, List.length_append, List.length_nil]
            omega
        · cases h
      · cases h
    · cases h
  · rintro ⟨tag, rest, rfl, rfl, w, blanks, rfl, hw, hblank⟩
    have hlen := hw.length_eq
    have ha : afterName? name (w ++ (blanks ++ '>' :: rest)) = some (blanks ++ '>' :: rest) :=
      afterName?_eq_some_iff.mpr ⟨w, rfl, hw⟩
    have hgt : isBlank '>' = false := by decide
    have hdrop : (blanks ++ '>' :: rest).dropWhile isBlank = '>' :: rest := by
      rw [List.dropWhile_append_of_pos hblank, List.dropWhile_cons_of_neg (by simp [hgt])]
    have htake : (blanks ++ '>' :: rest).takeWhile isBlank = blanks := by
      rw [List.takeWhile_append_of_pos hblank, List.takeWhile_cons_of_neg (by simp [hgt]), List.append_nil]
    have ht : '<' :: '/' :: (w ++ (blanks ++ ['>'])) ++ rest =
        '<' :: '/' :: (w ++ (blanks ++ '>' :: rest)) := by simp
    rw [ht, closeLength?, ha]
    simp only [hdrop, htake, List.length_cons, List.length_append, List.length_nil, Option.some.injEq]
    omega

/-- An opening tag runs to its first `>`. -/
theorem openLength?_eq_some {name t : Text} {n : Nat} (hp : PlainName name)
    (h : openLength? name t = some n) :
    ∃ w r, t = '<' :: (w ++ '>' :: r) ∧ n = w.length + 2 ∧ '>' ∉ w := by
  obtain ⟨tag, rest, rfl, rfl, w, more, rfl, hw, hmore⟩ := openLength?_iff.mp h
  have hgt := hw.gt_not_mem hp
  have hmore' : '>' ∉ more := by
    rcases hmore with rfl | ⟨b, attributes, rfl, hb, ha⟩
    · exact List.not_mem_nil
    · simp [ha, Ne.symm (isBlank_ne_gt hb)]
  refine ⟨w ++ more, rest, by simp, ?_, by simp [hgt, hmore']⟩
  simp only [List.length_cons, List.length_append, List.length_nil]
  omega

/-- A closing tag runs to its first `>`. -/
theorem closeLength?_eq_some {name t : Text} {n : Nat} (hp : PlainName name)
    (h : closeLength? name t = some n) :
    ∃ w r, t = '<' :: (w ++ '>' :: r) ∧ n = w.length + 2 ∧ '>' ∉ w := by
  obtain ⟨tag, rest, rfl, rfl, w, blanks, rfl, hw, hblank⟩ := closeLength?_iff.mp h
  have hgt := hw.gt_not_mem hp
  have hb : '>' ∉ blanks := fun hm => isBlank_ne_gt (hblank _ hm) rfl
  refine ⟨'/' :: (w ++ blanks), rest, by simp, ?_, by simp [hgt, hb]⟩
  simp only [List.length_cons, List.length_append, List.length_nil]
  omega

/-- What a closing tag of `n` characters holds: no hyphen, and nothing but blanks behind a newline, up to
the last character. -/
structure ClosingTag (t : Text) (n : Nat) : Prop where
  two_le : 2 ≤ n
  lt_first : t[0]? = some '<'
  gt_last : t[n - 1]? = some '>'
  no_hyphen : '-' ∉ t.take n
  blank_behind : ∀ m c, m + 1 < n → '\n' ∈ t.take m → t[m]? = some c → isBlank c = true

theorem closingTag_of_closeLength? {kind : BlockKind} {t : Text} {n : Nat}
    (h : closeLength? kind.tag t = some n) : ClosingTag t n := by
  obtain ⟨tag, r, hsplit, hlen, w, blanks, rfl, hw, hblank⟩ := closeLength?_iff.mp h
  have ht : t = '<' :: '/' :: (w ++ (blanks ++ '>' :: r)) := by simp [hsplit]
  have hn : n = w.length + blanks.length + 3 := by
    rw [← hlen]
    simp only [List.length_cons, List.length_append, List.length_nil]
    omega
  have hw : ∀ b : Char, b.toNat < 0x41 → b ∉ kind.tag → b ∉ w := fun b hb hname hm =>
    hname (hw.mem_of_mem hb hm)
  obtain ⟨front, hfront⟩ : ∃ front, front = '<' :: '/' :: w := ⟨_, rfl⟩
  have ht' : t = front ++ (blanks ++ '>' :: r) := by rw [ht, hfront]; rfl
  have hn' : n = front.length + blanks.length + 1 := by
    rw [hn, hfront, List.length_cons, List.length_cons]
    omega
  refine ⟨by omega, by rw [ht]; rfl, ?_, ?_, ?_⟩
  · rw [ht', hn', List.getElem?_append_right (by omega), List.getElem?_append_right (by omega)]
    simp [Nat.add_assoc]
  · have htake : t.take n = front ++ blanks ++ ['>'] := by
      have hsplit : t = (front ++ blanks ++ ['>']) ++ r := by simp [ht']
      rw [hsplit, List.take_left' (by simp [hn', Nat.add_assoc])]
    have hhyphen : '-' ∉ blanks := fun hm => absurd (hblank _ hm) (by decide)
    simp [htake, hfront, hhyphen, hw '-' (by decide) (by cases kind <;> decide)]
  · intro m c hm hnewline hc
    have hlt : front.length < m := by
      apply Classical.byContradiction
      intro hle
      rw [ht', List.take_append_of_le_length (by omega)] at hnewline
      have := List.mem_of_mem_take hnewline
      simp [hfront, hw '\n' (by decide) (by cases kind <;> decide)] at this
    rw [ht', List.getElem?_append_right (by omega), List.getElem?_append_left (by omega)] at hc
    exact hblank c (List.mem_of_getElem? hc)

/-- An opening tag is told by its own characters. -/
theorem openLength?_of_append {name a b : Text} {n : Nat} (h : openLength? name (a ++ b) = some n)
    (hn : n ≤ a.length) : openLength? name a = some n := by
  obtain ⟨tag, rest, hsplit, hlen, htag⟩ := openLength?_iff.mp h
  have hfirst : tag <+: a :=
    List.prefix_of_prefix_length_le ⟨rest, hsplit.symm⟩ (List.prefix_append a b) (by omega)
  obtain ⟨rest', rfl⟩ := hfirst
  exact openLength?_iff.mpr ⟨tag, rest', rfl, hlen, htag⟩

/-! ## Tags in a text -/

/-- The `n` characters from place `o` on end in their first `>`. -/
structure RunsToGt (t : Text) (o n : Nat) : Prop where
  two_le : 2 ≤ n
  gt_last : t[o + n - 1]? = some '>'
  gt_first : ∀ j, o ≤ j → j < o + n - 1 → t[j]? ≠ some '>'

theorem RunsToGt.end_le {t : Text} {o n : Nat} (h : RunsToGt t o n) : o + n ≤ t.length := by
  obtain ⟨hlt, -⟩ := List.getElem?_eq_some_iff.mp h.gt_last
  have := h.two_le
  omega

theorem runsToGt_of_drop {t w r : Text} {o : Nat} (h : t.drop o = '<' :: (w ++ '>' :: r))
    (hw : '>' ∉ w) : RunsToGt t o (w.length + 2) := by
  have hget : ∀ j, t[o + j]? = ('<' :: (w ++ '>' :: r))[j]? := by
    intro j
    rw [← h, List.getElem?_drop]
  refine ⟨by omega, ?_, ?_⟩
  · rw [show o + (w.length + 2) - 1 = o + (w.length + 1) by omega, hget]
    simp
  · intro j hj hlt
    obtain ⟨i, rfl⟩ := Nat.exists_eq_add_of_le hj
    rw [hget]
    rcases i with _ | i
    · simp
    · rw [List.getElem?_cons_succ, List.getElem?_append_left (by omega)]
      exact fun he => hw (List.mem_of_getElem? he)

theorem runsToGt_of_openLength? {name t : Text} {o n : Nat} (hp : PlainName name)
    (h : openLength? name (t.drop o) = some n) : RunsToGt t o n := by
  obtain ⟨w, r, hd, rfl, hw⟩ := openLength?_eq_some hp h
  exact runsToGt_of_drop hd hw

theorem runsToGt_of_closeLength? {name t : Text} {o n : Nat} (hp : PlainName name)
    (h : closeLength? name (t.drop o) = some n) : RunsToGt t o n := by
  obtain ⟨w, r, hd, rfl, hw⟩ := closeLength?_eq_some hp h
  exact runsToGt_of_drop hd hw

/-- A tag that starts inside another ends with it. -/
theorem RunsToGt.end_eq {t : Text} {o n p m : Nat} (ho : RunsToGt t o n) (hp : RunsToGt t p m)
    (hop : o ≤ p) (hpo : p < o + n) : p + m = o + n := by
  have h1 := ho.two_le
  have h2 := hp.two_le
  apply Classical.byContradiction
  intro hne
  rcases Nat.lt_or_gt_of_ne hne with hlt | hgt
  · exact ho.gt_first (p + m - 1) (by omega) (by omega) hp.gt_last
  · exact hp.gt_first (o + n - 1) (by omega) (by omega) ho.gt_last

theorem isSelfClosing_append (u : Text) {v : Text} (hv : 2 ≤ v.length) :
    isSelfClosing (u ++ v) = isSelfClosing v := by
  obtain ⟨x, y, r, hr⟩ : ∃ x y r, v.reverse = x :: y :: r := by
    rcases h : v.reverse with _ | ⟨x, _ | ⟨y, r⟩⟩
    · have := congrArg List.length h
      simp only [List.length_reverse, List.length_nil] at this
      omega
    · have := congrArg List.length h
      simp only [List.length_reverse, List.length_singleton] at this
      omega
    · exact ⟨x, y, r, rfl⟩
  simp only [isSelfClosing, endsWith, startsWith, List.reverse_append, hr, List.reverse_cons,
    List.reverse_nil, List.nil_append, List.cons_append, after?]
  split
  · split <;> rfl
  · rfl

/-- Of two tags that overlap, both are self-closing or neither. -/
theorem RunsToGt.isSelfClosing_eq {t : Text} {o n p m : Nat} (ho : RunsToGt t o n)
    (hp : RunsToGt t p m) (hop : o ≤ p) (hpo : p < o + n) :
    isSelfClosing ((t.drop o).take n) = isSelfClosing ((t.drop p).take m) := by
  have he := ho.end_eq hp hop hpo
  have hle := hp.end_le
  obtain ⟨d, rfl⟩ := Nat.exists_eq_add_of_le hop
  have hsplit : (t.drop o).take n = (t.drop o).take d ++ (t.drop (o + d)).take m := by
    rw [show n = d + m by omega, List.take_add, List.drop_drop]
  rw [hsplit]
  apply isSelfClosing_append
  rw [List.length_take, List.length_drop]
  have := hp.two_le
  omega

end FrontLint.Block
