/-
  FrontLint.Proofs.Path.Order — paths are in a line.

  Texts are compared by the first characters in which they differ, components by their rank or as texts,
  and paths by the first components in which they differ. Each is the lexicographic comparison of lists
  over the one before (`lexLe`), and that is linear if the comparison of the elements is. Proved:
  - `lexLe_total` / `lexLe_trans` / `lexLe_antisymm`: the step.
  - `Text.linear_le` / `Part.linear_le`: texts and components.
  - `le_trans` / `le_total` / `components_eq_of_le`: paths are in a line, and two of them share a place if
    they have the same components.
-/

import FrontLint.Path
import Mathlib.Data.Char

namespace FrontLint

/-! ## Lexicographic comparison -/

section Lexicographic

variable {α : Type}

/-- A comparison that puts any two different elements in one order. It may hold of an element and itself
or not. -/
structure Linear (le : α → α → Bool) : Prop where
  total : ∀ a b, a ≠ b → le a b = true ∨ le b a = true
  trans : ∀ a b c, le a b = true → le b c = true → le a c = true
  antisymm : ∀ a b, le a b = true → le b a = true → a = b

variable [DecidableEq α] {le : α → α → Bool}

/-- Lists by the first elements in which they differ. -/
def lexLe (le : α → α → Bool) : List α → List α → Bool
  | [], _ => true
  | _ :: _, [] => false
  | a :: as, b :: bs => if a = b then lexLe le as bs else le a b

theorem lexLe_cons_self (a : α) (as bs : List α) : lexLe le (a :: as) (a :: bs) = lexLe le as bs := by
  simp [lexLe]

theorem lexLe_cons_of_ne {a b : α} (h : a ≠ b) (as bs : List α) : lexLe le (a :: as) (b :: bs) = le a b := by
  simp [lexLe, h]

theorem lexLe_total (h : Linear le) (as bs : List α) : lexLe le as bs = true ∨ lexLe le bs as = true := by
  induction as generalizing bs with
  | nil => exact Or.inl rfl
  | cons a as ih =>
    cases bs with
    | nil => exact Or.inr rfl
    | cons b bs =>
      by_cases hab : a = b
      · subst hab
        rw [lexLe_cons_self, lexLe_cons_self]
        exact ih bs
      · rw [lexLe_cons_of_ne hab, lexLe_cons_of_ne (Ne.symm hab)]
        exact h.total a b hab

theorem lexLe_trans (h : Linear le) (as bs cs : List α) (hab : lexLe le as bs = true)
    (hbc : lexLe le bs cs = true) : lexLe le as cs = true := by
  induction as generalizing bs cs with
  | nil => rfl
  | cons a as ih =>
    rcases bs with _ | ⟨b, bs⟩
    · cases hab
    rcases cs with _ | ⟨c, cs⟩
    · cases hbc
    by_cases eab : a = b
    · subst eab
      by_cases eac : a = c
      · subst eac
        rw [lexLe_cons_self] at hab hbc ⊢
        exact ih bs cs hab hbc
      · rw [lexLe_cons_of_ne eac] at hbc ⊢
        exact hbc
    · rw [lexLe_cons_of_ne eab] at hab
      by_cases ebc : b = c
      · subst ebc
        rw [lexLe_cons_of_ne eab]
        exact hab
      · rw [lexLe_cons_of_ne ebc] at hbc
        -- The first elements are in order twice, so they do not come back to where they were.
        have eac : a ≠ c := by
          rintro rfl
          exact eab (h.antisymm a b hab hbc)
        rw [lexLe_cons_of_ne eac]
        exact h.trans a b c hab hbc

theorem lexLe_antisymm (h : Linear le) (as bs : List α) (hab : lexLe le as bs = true)
    (hba : lexLe le bs as = true) : as = bs := by
  induction as generalizing bs with
  | nil =>
    cases bs with
    | nil => rfl
    | cons b bs => cases hba
  | cons a as ih =>
    cases bs with
    | nil => cases hab
    | cons b bs =>
      by_cases eab : a = b
      · subst eab
        rw [lexLe_cons_self] at hab hba
        rw [ih bs hab hba]
      · rw [lexLe_cons_of_ne eab] at hab
        rw [lexLe_cons_of_ne (Ne.symm eab)] at hba
        exact absurd (h.antisymm a b hab hba) eab

end Lexicographic

/-! ## Texts, components, paths -/

theorem Text.le_eq_lexLe (s t : Text) : Text.le s t = lexLe (fun a b : Char => decide (a < b)) s t := by
  induction s generalizing t with
  | nil => rfl
  | cons a s ih =>
    cases t with
    | nil => rfl
    | cons b t => simp only [Text.le, lexLe, ih]

theorem Text.linear_le : Linear Text.le := by
  have hchar : Linear fun a b : Char => decide (a < b) := by
    refine ⟨fun a b h => ?_, fun a b c => ?_, fun a b => ?_⟩
    · simpa using lt_or_gt_of_ne h
    · simpa using lt_trans
    · simpa using fun hab hba => absurd hab (lt_asymm hba)
  rw [funext fun s => funext (Text.le_eq_lexLe s)]
  exact ⟨fun s t _ => lexLe_total hchar s t, lexLe_trans hchar, lexLe_antisymm hchar⟩

namespace Path

namespace Part

/-- The text by which components of one rank are compared. -/
def word : Part → Text
  | .name n => n
  | _ => []

theorem le_iff (a b : Part) :
    Part.le a b = true ↔ a.rank < b.rank ∨ (a.rank = b.rank ∧ Text.le a.word b.word = true) := by
  cases a <;> cases b <;> simp [Part.le, rank, word, Text.le]

theorem eq_of_word_eq {a b : Part} (hrank : a.rank = b.rank) (hword : a.word = b.word) : a = b := by
  cases a <;> cases b <;> simp_all [rank, word]

theorem linear_le : Linear Part.le := by
  refine ⟨fun a b h => ?_, fun a b c hab hbc => ?_, fun a b hab hba => ?_⟩
  · rw [le_iff, le_iff]
    rcases lt_trichotomy a.rank b.rank with hlt | heq | hgt
    · exact Or.inl (Or.inl hlt)
    · have hword : a.word ≠ b.word := fun hword => h (eq_of_word_eq heq hword)
      rcases Text.linear_le.total _ _ hword with hle | hle
      · exact Or.inl (Or.inr ⟨heq, hle⟩)
      · exact Or.inr (Or.inr ⟨heq.symm, hle⟩)
    · exact Or.inr (Or.inl hgt)
  · rw [le_iff] at hab hbc ⊢
    rcases hab with hab | ⟨eab, hab⟩
    · rcases hbc with hbc | ⟨ebc, -⟩
      · exact Or.inl (lt_trans hab hbc)
      · exact Or.inl (ebc ▸ hab)
    · rcases hbc with hbc | ⟨ebc, hbc⟩
      · exact Or.inl (eab ▸ hbc)
      · exact Or.inr ⟨eab.trans ebc, Text.linear_le.trans _ _ _ hab hbc⟩
  · rw [le_iff] at hab hba
    have hrank : a.rank = b.rank := by omega
    have hle : Text.le a.word b.word = true := (hab.resolve_left (by omega)).2
    have hge : Text.le b.word a.word = true := (hba.resolve_left (by omega)).2
    exact eq_of_word_eq hrank (Text.linear_le.antisymm _ _ hle hge)

end Part

theorem compareComponents_eq_lexLe (as bs : List Part) : compareComponents as bs = lexLe Part.le as bs := by
  induction as generalizing bs with
  | nil => rfl
  | cons a as ih =>
    cases bs with
    | nil => rfl
    | cons b bs => simp only [compareComponents, lexLe, ih]

theorem le_trans (p q r : Path) (hpq : p.le q = true) (hqr : q.le r = true) : p.le r = true := by
  rw [le, compareComponents_eq_lexLe] at hpq hqr ⊢
  exact lexLe_trans Part.linear_le _ _ _ hpq hqr

theorem le_total (p q : Path) : (p.le q || q.le p) = true := by
  rw [Bool.or_eq_true, le, le, compareComponents_eq_lexLe, compareComponents_eq_lexLe]
  exact lexLe_total Part.linear_le _ _

/-- Two paths that are each before the other have the same components. -/
theorem components_eq_of_le {p q : Path} (hpq : p.le q = true) (hqp : q.le p = true) :
    p.components = q.components := by
  rw [le, compareComponents_eq_lexLe] at hpq hqp
  exact lexLe_antisymm Part.linear_le _ _ hpq hqp

end Path

end FrontLint
