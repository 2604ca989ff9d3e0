/-
  FrontLint.Pattern.Trail — attempts at a match that make use of earlier ones. An attempt that
  failed leaves a trail, the nodes that were possible at each place it passed. A later attempt that
  comes to the same nodes at the same place fails as well, so it need not go on. Attempts at
  neighbouring places soon fall in with each other, and a search through a text takes time in
  proportion to it.

  `attempt_eq`: an attempt gives the length of the match, whatever trail it follows, as long as
  runs from the nodes on the trail fail; and so do those from the nodes on the trail it leaves.
-/

import FrontLint.Pattern.Program

namespace FrontLint.Pattern

/-- Nodes at each of some consecutive places, from which a run fails. -/
abbrev Trail := List (List Nat)

namespace Program

/-- Runs on with the nodes `live` after `n` characters, when nothing is accepted so far. If it
fails, the nodes it came by are put in front of what remains of the trail; `passed` are those so
far, the last first. -/
def follow (p : Program) : List Nat → Nat → Text → Trail → List (List Nat) → Option Nat × Trail
  | live, n, t, trail, passed =>
    if trail.head? = some live then (none, passed.reverseAux trail)
    else if p.accepts live then (p.run live none n t, trail)
    else
      match t with
      | [] => (none, passed.reverseAux (live :: trail.tail))
      | c :: rest =>
        match p.next c live with
        | [] => (none, passed.reverseAux (live :: trail.tail))
        | todo =>
          p.follow (p.reachAll (some c) rest.head? todo) (n + 1) rest trail.tail (live :: passed)
termination_by structural _ _ t => t

/-- How many characters the match takes that starts at the front of `t`, and the trail for the
attempts after this one. -/
def attempt (p : Program) (trail : Trail) (before : Option Char) (t : Text) : Option Nat × Trail :=
  match p.follow (p.first before t) 0 t trail [] with
  | (none, new) => (none, new)
  | (some n, _) => (some n, trail)

/-! ## Trails are sound -/

/-- Runs from the nodes on a trail fail, each from its place in the text on. -/
def Fails (p : Program) : Text → Trail → Prop
  | _, [] => True
  | t, live :: trail => (∀ n, p.run live none n t = none) ∧ p.Fails t.tail trail

theorem Fails.run_eq_none {p : Program} {live : List Nat} {t : Text} {trail : Trail}
    (h : p.Fails t trail) (hl : trail.head? = some live) (n : Nat) :
    p.run live none n t = none := by
  cases trail with
  | nil => simp at hl
  | cons _ _ =>
    cases hl
    exact h.1 n

theorem Fails.tail {p : Program} {t : Text} {trail : Trail} (h : p.Fails t trail) :
    p.Fails t.tail trail.tail := by
  cases trail with
  | nil => trivial
  | cons _ _ => exact h.2

/-- A run that has accepted does not fail. -/
theorem run_some_ne_none (p : Program) (live : List Nat) (best n : Nat) (t : Text) :
    p.run live (some best) n t ≠ none := by
  induction t generalizing live best n with
  | nil => rw [run, accepted]; split <;> simp
  | cons c rest ih =>
    rw [run, accepted]
    split
    · split <;> simp
    · split <;> exact ih _ _ _

/-- Whether a run fails does not depend on how far it has come. -/
theorem run_none_of_run_none {p : Program} {live : List Nat} {n : Nat} {t : Text}
    (h : p.run live none n t = none) (m : Nat) : p.run live none m t = none := by
  induction t generalizing live n m with
  | nil => simp_all [run, accepted]
  | cons c rest ih =>
    by_cases ha : p.accepts live = true
    · rw [run] at h
      split at h
      · simp [accepted, ha] at h
      · rw [accepted, if_pos ha] at h
        exact absurd h (run_some_ne_none _ _ _ _ _)
    · simp only [run, accepted, if_neg ha] at h ⊢
      split at h
      · rfl
      · exact ih h _

/-- Following a trail gives the answer of the run, and a trail to follow. -/
theorem follow_eq {p : Program} {live : List Nat} {n : Nat} {t : Text} {trail : Trail}
    (passed : List (List Nat)) (h : p.Fails t trail) :
    (p.follow live n t trail passed).1 = p.run live none n t ∧
      (p.run live none n t = none →
        ∃ ahead, (p.follow live n t trail passed).2 = passed.reverseAux ahead ∧
          p.Fails t ahead) := by
  induction t generalizing live n trail passed with
  | nil =>
    rw [follow]
    split
    · rename_i hl
      exact ⟨(h.run_eq_none hl n).symm, fun _ => ⟨_, rfl, h⟩⟩
    · split
      · rename_i ha
        exact ⟨rfl, fun hn => by simp [run, accepted, ha] at hn⟩
      · rename_i ha
        have fails (m : Nat) : p.run live none m [] = none := by simp [run, accepted, ha]
        exact ⟨(fails n).symm, fun _ => ⟨_, rfl, fails, h.tail⟩⟩
  | cons c rest ih =>
    rw [follow]
    split
    · rename_i hl
      exact ⟨(h.run_eq_none hl n).symm, fun _ => ⟨_, rfl, h⟩⟩
    · split
      · rename_i ha
        refine ⟨rfl, fun hn => ?_⟩
        rw [run] at hn
        split at hn
        · simp [accepted, ha] at hn
        · rw [accepted, if_pos ha] at hn
          exact absurd hn (run_some_ne_none _ _ _ _ _)
      · rename_i ha
        split
        · rename_i hs
          have fails (m : Nat) : p.run live none m (c :: rest) = none := by
            simp [run, accepted, ha, hs]
          exact ⟨(fails n).symm, fun _ => ⟨_, rfl, fails, h.tail⟩⟩
        · rename_i todo hs
          have step (m : Nat) : p.run live none m (c :: rest) =
              p.run (p.reachAll (some c) rest.head? (p.next c live)) none (m + 1) rest := by
            rw [run]
            split
            · contradiction
            · simp [accepted, ha]
          rw [step n]
          obtain ⟨h1, h2⟩ := @ih (p.reachAll (some c) rest.head? (p.next c live)) (n + 1)
            trail.tail (live :: passed) h.tail
          refine ⟨h1, fun hn => ?_⟩
          obtain ⟨ahead, ha, hf⟩ := h2 hn
          refine ⟨live :: ahead, ha, fun m => ?_, hf⟩
          rw [step m]
          exact run_none_of_run_none hn _

/-- An attempt gives the length of the match, and leaves a trail to follow for the places after. -/
theorem attempt_eq {p : Program} {trail : Trail} (before : Option Char) {t : Text}
    (h : p.Fails t trail) :
    (p.attempt trail before t).1 = p.matchLength? before t ∧
      p.Fails t.tail (p.attempt trail before t).2.tail := by
  obtain ⟨h1, h2⟩ := @follow_eq p (p.first before t) 0 t trail [] h
  rw [attempt, matchLength?]
  split
  · rename_i new hf
    rw [hf] at h1 h2
    obtain ⟨ahead, rfl, hf⟩ := h2 h1.symm
    exact ⟨h1, hf.tail⟩
  · rename_i k _ hf
    rw [hf] at h1
    exact ⟨h1, h.tail⟩

end Program

end FrontLint.Pattern
