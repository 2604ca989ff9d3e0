/-
  FrontLint.Proofs.Directive.Reading — directives are read piece by piece.

  No directive holds a character that is foreign to directives, such as `<`, `>` or a newline, so a
  text can be cut at such a character and its parts read apart. Proved:
  - `Text.startsWith_iff` / `Text.contains_iff`: what it means to start with a text and to contain one.
  - `read?_cut`: what comes behind a foreign character has no influence on a directive before it.
  - `readAll_cut`: the directives of a text are those of the part before such a character and those of
    the part behind it.
  - `marker_infix_of_mem_readAll`: a text with a directive has the marker in it.
-/

import FrontLint.Directive

namespace FrontLint

/-! ## Parts of a text -/

theorem Text.after?_eq_some {lead t rest : Text} : after? lead t = some rest ↔ t = lead ++ rest := by
  induction lead generalizing t with
  | nil => simp [after?, eq_comm]
  | cons a lead ih =>
    cases t with
    | nil => simp [after?]
    | cons c t =>
      by_cases h : a = c
      · simp [after?, h, ih]
      · simp [after?, h, Ne.symm h]

theorem Text.startsWith_iff {lead t : Text} : startsWith lead t = true ↔ lead <+: t := by
  simp only [startsWith, Option.isSome_iff_exists, after?_eq_some]
  exact ⟨fun ⟨rest, h⟩ => ⟨rest, h.symm⟩, fun ⟨rest, h⟩ => ⟨rest, h.symm⟩⟩

theorem Text.contains_iff {part t : Text} : contains part t = true ↔ part <:+: t := by
  induction t with
  | nil => simp [contains]
  | cons c t ih => rw [contains, Bool.or_eq_true, startsWith_iff, ih, List.infix_cons_iff]

namespace Directive

open FrontLint.Text

/-- A character that stands in no directive. -/
def isForeign (c : Char) : Bool := !(isIdChar c || isGap c || c == ',' || c == ':')

/-! ## One directive -/

theorem length_le_of_id? {t rest : Text} {id : String} (h : id? t = some (id, rest)) :
    rest.length ≤ t.length := by
  unfold id? at h
  split at h
  · cases h
  · cases h
    exact (List.dropWhile_sublist _).length_le

/-- More rounds than characters change nothing. -/
theorem moreIds_congr {n m : Nat} {t : Text} (hn : t.length ≤ n) (hm : t.length ≤ m) :
    moreIds n t = moreIds m t := by
  induction n generalizing m t with
  | zero =>
    have : t = [] := List.length_eq_zero_iff.mp (by omega)
    subst this
    cases m <;> rfl
  | succ n ih =>
    cases m with
    | zero =>
      have : t = [] := List.length_eq_zero_iff.mp (by omega)
      subst this
      rfl
    | succ m =>
      rw [moreIds, moreIds]
      split
      · rename_i rest hrest
        have h1 : (t.dropWhile isGap).length ≤ t.length := (List.dropWhile_sublist _).length_le
        rw [hrest, List.length_cons] at h1
        split
        · rename_i id rest' hid
          have h2 := length_le_of_id? hid
          have h3 : (rest.dropWhile isGap).length ≤ rest.length := (List.dropWhile_sublist _).length_le
          rw [ih (m := m) (by omega) (by omega)]
        · rfl
      · rfl

theorem afterSeparator?_of_ne {t : Text} (h : ∀ u, t.dropWhile isGap ≠ ':' :: u) :
    afterSeparator? t =
      if (t.dropWhile isGap).length < t.length then some (t.dropWhile isGap) else none := by
  unfold afterSeparator?
  split
  · rename_i hu
    exact absurd hu (h _)
  · rfl

section Cut

variable {x : Char}

theorem takeWhile_cut {p : Char → Bool} (hp : p x = false) (t r : Text) :
    (t ++ x :: r).takeWhile p = t.takeWhile p := by
  induction t with
  | nil => simp [hp]
  | cons c t ih => cases h : p c <;> simp [h, ih]

theorem dropWhile_cut {p : Char → Bool} (hp : p x = false) (t r : Text) :
    (t ++ x :: r).dropWhile p = t.dropWhile p ++ x :: r := by
  induction t with
  | nil => simp [hp]
  | cons c t ih => cases h : p c <;> simp [h, ih]

theorem after?_cut {lead : Text} (hx : x ∉ lead) (t r : Text) :
    after? lead (t ++ x :: r) = (after? lead t).map (· ++ x :: r) := by
  induction lead generalizing t with
  | nil => rfl
  | cons a lead ih =>
    simp only [List.mem_cons, not_or] at hx
    cases t with
    | nil => simp [after?, Ne.symm hx.1]
    | cons c t => by_cases h : a = c <;> simp [after?, h, ih hx.2]

variable (hx : isForeign x = true)
include hx

theorem foreign_parts : isIdChar x = false ∧ isGap x = false ∧ x ≠ ',' ∧ x ≠ ':' := by
  simpa [isForeign, and_assoc] using hx

theorem id?_cut (t r : Text) : id? (t ++ x :: r) = (id? t).map fun p => (p.1, p.2 ++ x :: r) := by
  obtain ⟨hid, -⟩ := foreign_parts hx
  unfold id?
  rw [takeWhile_cut hid, dropWhile_cut hid]
  cases t.takeWhile isIdChar <;> rfl

theorem moreIds_cut (n : Nat) (t r : Text) :
    moreIds n (t ++ x :: r) = ((moreIds n t).1, (moreIds n t).2 ++ x :: r) := by
  obtain ⟨-, hgap, hcomma, -⟩ := foreign_parts hx
  induction n generalizing t with
  | zero => rfl
  | succ n ih =>
    rw [moreIds, moreIds, dropWhile_cut hgap]
    rcases t.dropWhile isGap with _ | ⟨c, u⟩
    · simp [hcomma]
    · by_cases hc : c = ','
      · subst hc
        simp only [List.cons_append]
        rw [dropWhile_cut hgap, id?_cut hx]
        cases h : id? (u.dropWhile isGap) with
        | none => rfl
        | some p => simp [ih]
      · simp [hc]

theorem afterSeparator?_cut (t r : Text) :
    afterSeparator? (t ++ x :: r) = (afterSeparator? t).map (· ++ x :: r) := by
  obtain ⟨-, hgap, -, hcolon⟩ := foreign_parts hx
  have hdrop := dropWhile_cut hgap t r
  by_cases h : ∃ u, t.dropWhile isGap = ':' :: u
  · obtain ⟨u, hu⟩ := h
    rw [hu] at hdrop
    simp only [afterSeparator?, hu, hdrop, List.cons_append, dropWhile_cut hgap, Option.map_some]
  · have hno : ∀ u, (t ++ x :: r).dropWhile isGap ≠ ':' :: u := by
      intro u hu
      rw [hdrop] at hu
      rcases hd : t.dropWhile isGap with _ | ⟨c, v⟩
      · rw [hd] at hu
        exact hcolon (List.cons.inj hu).1
      · rw [hd] at hu
        exact h ⟨v, by rw [hd, (List.cons.inj hu).1]⟩
    rw [afterSeparator?_of_ne hno, afterSeparator?_of_ne (not_exists.mp h), hdrop]
    simp only [List.length_append, Nat.add_lt_add_iff_right]
    split <;> rfl

theorem ids?_cut (t r : Text) : ids? (t ++ x :: r) = (ids? t).map fun p => (p.1, p.2 ++ x :: r) := by
  unfold ids?
  rw [afterSeparator?_cut hx]
  rcases afterSeparator? t with _ | u
  · rfl
  simp only [Option.map_some, Option.bind_eq_bind, Option.bind_some, id?_cut hx]
  rcases id? u with _ | ⟨id, v⟩
  · rfl
  have hrounds : moreIds (v ++ x :: r).length v = moreIds v.length v :=
    moreIds_congr (by simp) (Nat.le_refl _)
  simp only [Option.map_some, Option.bind_some, moreIds_cut hx, hrounds]
  rfl

/-- What comes behind a foreign character has no influence on a directive before it. -/
theorem read?_cut (t r : Text) : read? (t ++ x :: r) = (read? t).map fun p => (p.1, p.2 ++ x :: r) := by
  obtain ⟨hid, -⟩ := foreign_parts hx
  have not_mem : ∀ {mark : Text}, mark.all isIdChar = true → x ∉ mark := by
    intro mark hmark hm
    rw [List.all_eq_true.mp hmark x hm] at hid
    cases hid
  have hmarker : x ∉ marker := not_mem (by decide)
  have hnext : x ∉ nextLineMark := not_mem (by decide)
  unfold read?
  rw [after?_cut hmarker]
  rcases after? marker t with _ | u
  · rfl
  simp only [Option.map_some, Option.bind_eq_bind, Option.bind_some, after?_cut hnext]
  cases after? nextLineMark u with
  | some v =>
    simp only [Option.map_some, ids?_cut hx]
    cases ids? v <;> rfl
  | none =>
    simp only [Option.map_none, ids?_cut hx]
    cases ids? u <;> rfl

theorem read?_foreign (r : Text) : read? (x :: r) = none := by
  have h := read?_cut hx [] r
  rwa [List.nil_append, show read? [] = none from rfl] at h

end Cut

/-! ## All directives -/

theorem readAll_skip (n : Nat) (t : Text) : readAll n t = readAll 0 (t.drop n) := by
  induction n generalizing t with
  | zero => rfl
  | succ n ih =>
    cases t with
    | nil => rfl
    | cons c t => exact ih t

/-- The directives of a text with a foreign character in it: those before it and those behind it. -/
theorem readAll_cut {x : Char} (hx : isForeign x = true) (t r : Text) :
    readAll 0 (t ++ x :: r) = readAll 0 t ++ readAll 0 r := by
  -- A directive is passed over as a whole, so the induction is on the length of what is left.
  induction hn : t.length using Nat.strongRecOn generalizing t with
  | ind n ih =>
    cases t with
    | nil => simp [readAll, read?_foreign hx]
    | cons c t =>
      have hcut := read?_cut hx (c :: t) r
      rw [List.cons_append] at hcut ⊢
      rw [readAll, readAll, hcut]
      subst hn
      cases read? (c :: t) with
      | none => exact ih t.length (by simp) t rfl
      | some p =>
        have hskip : t.length - p.2.length ≤ t.length := Nat.sub_le _ _
        simp only [Option.map_some, List.cons_append, List.cons.injEq, true_and, List.length_append,
          Nat.add_sub_add_right]
        rw [readAll_skip, readAll_skip (t.length - p.2.length) t, List.drop_append_of_le_length hskip]
        exact ih _ (by simp only [List.length_drop, List.length_cons]; omega) _ rfl

theorem readAll_spaces_append (n : Nat) (t : Text) : readAll 0 (spaces n ++ t) = readAll 0 t := by
  induction n with
  | zero => rfl
  | succ n ih =>
    rw [← ih]
    rfl

theorem marker_prefix_of_read? {t : Text} {p : Directive × Text} (h : read? t = some p) : marker <+: t := by
  unfold read? at h
  obtain ⟨u, hu, -⟩ := Option.bind_eq_some_iff.mp h
  rw [after?_eq_some.mp hu]
  exact List.prefix_append _ _

/-- A text with a directive has the marker in it. -/
theorem marker_infix_of_mem_readAll {n : Nat} {t : Text} {d : Directive} (h : d ∈ readAll n t) :
    marker <:+: t := by
  fun_induction readAll n t with
  | case1 => simp at h
  | case2 n c t ih => exact (ih h).trans (List.suffix_cons c t).isInfix
  | case3 c t e rest hread ih => exact (marker_prefix_of_read? hread).isInfix
  | case4 c t hread ih => exact (ih h).trans (List.suffix_cons c t).isInfix

end Directive

end FrontLint
