/-
  FrontLint.Proofs.Traversal — steps that may fail, taken one after the other.

  The first failure is the result, and what comes behind it is not looked at. Proved:
  - `bind_eq_ok` / `bind_eq_error`: two steps.
  - `mapM_eq_ok` / `mapM_eq_error`: a list succeeds element by element, and fails as its first element that
    fails.
  - `foldlM_invariant`: what every step keeps, a run keeps.
-/

import Mathlib.Data.List.Forall2

namespace FrontLint.Traversal

variable {ε α β : Type}

theorem eq_ok_of_toOption {x : Except ε α} {a : α} (h : x.toOption = some a) : x = .ok a := by
  cases x with
  | error e => cases h
  | ok b =>
    cases h
    rfl

theorem bind_eq_ok {x : Except ε α} {f : α → Except ε β} {b : β} :
    x >>= f = .ok b ↔ ∃ a, x = .ok a ∧ f a = .ok b := by
  cases x with
  | error e => simp [bind, Except.bind]
  | ok a => simp [bind, Except.bind]

theorem bind_eq_error {x : Except ε α} {f : α → Except ε β} {e : ε} :
    x >>= f = .error e ↔ x = .error e ∨ ∃ a, x = .ok a ∧ f a = .error e := by
  cases x with
  | error e' => simp [bind, Except.bind]
  | ok a => simp [bind, Except.bind]

theorem mapM_eq_ok {f : α → Except ε β} {l : List α} {out : List β} :
    l.mapM f = .ok out ↔ List.Forall₂ (fun a b => f a = .ok b) l out := by
  induction l generalizing out with
  | nil => simp [pure, Except.pure, eq_comm]
  | cons a l ih =>
    rw [List.mapM_cons, bind_eq_ok]
    simp only [bind_eq_ok, ih, List.forall₂_cons_left_iff]
    constructor
    · intro ⟨b, hb, bs, hbs, heq⟩
      exact ⟨b, bs, hb, hbs, (Except.ok.inj heq).symm⟩
    · intro ⟨b, bs, hb, hbs, heq⟩
      exact ⟨b, hb, bs, hbs, by rw [heq]; rfl⟩

/-- A list fails as one of its elements does, if all before that succeed. -/
theorem mapM_eq_error {f : α → Except ε β} {l : List α} {e : ε} :
    l.mapM f = .error e ↔
      ∃ front a rest, l = front ++ a :: rest ∧ (∀ x ∈ front, ∃ b, f x = .ok b) ∧ f a = .error e := by
  induction l with
  | nil => simp [pure, Except.pure]
  | cons a l ih =>
    rw [List.mapM_cons, bind_eq_error]
    constructor
    · intro h
      rcases h with ha | ⟨b, hb, h⟩
      · exact ⟨[], a, l, rfl, by simp, ha⟩
      · rcases bind_eq_error.mp h with hl | ⟨bs, -, hnone⟩
        · obtain ⟨front, x, rest, rfl, hfront, hx⟩ := ih.mp hl
          refine ⟨a :: front, x, rest, rfl, ?_, hx⟩
          intro y hy
          rcases List.mem_cons.mp hy with rfl | hy
          · exact ⟨b, hb⟩
          · exact hfront y hy
        · cases hnone
    · intro ⟨front, x, rest, heq, hfront, hx⟩
      cases front with
      | nil =>
        obtain ⟨rfl, rfl⟩ := List.cons.inj heq
        exact .inl hx
      | cons y front =>
        obtain ⟨rfl, rfl⟩ := List.cons.inj heq
        obtain ⟨b, hb⟩ := hfront a List.mem_cons_self
        refine .inr ⟨b, hb, bind_eq_error.mpr (.inl (ih.mpr ⟨front, x, rest, rfl, ?_, hx⟩))⟩
        intro z hz
        exact hfront z (List.mem_cons_of_mem a hz)

theorem foldlM_invariant {f : α → β → Option α} {P : α → Prop} {l : List β}
    (hstep : ∀ a b a', b ∈ l → P a → f a b = some a' → P a') {a a' : α} (ha : P a) (h : l.foldlM f a = some a') :
    P a' := by
  induction l generalizing a with
  | nil =>
    cases h
    exact ha
  | cons b l ih =>
    obtain ⟨next, hnext, hrest⟩ := Option.bind_eq_some_iff.mp h
    have hkept : P next := hstep a b next List.mem_cons_self ha hnext
    exact ih (fun x y x' hy => hstep x y x' (List.mem_cons_of_mem b hy)) hkept hrest

end FrontLint.Traversal
