/-
  FrontLint.Proofs.Strip.Extent — how far a literal or a comment reaches in a line.

  `Through` cuts a text behind the first place at which something closes, or takes all of it. A
  quote closes a literal where it is `Bare`: after an even number of backslashes. Proved:
  - `Through.unique`: there is one such cut.
  - `run_comment` / `run_quoted` / `run_regex`: a machine that goes through the text character by
    character, and changes over at the close, makes that cut.
-/

import FrontLint.Proofs.Text.Offset

namespace FrontLint.Strip

open FrontLint.Text

/-! ## Escapes -/

/-- How many backslashes a text ends in. -/
def endBackslashes (t : Text) : Nat := (t.reverse.takeWhile (· = '\\')).length

/-- Character `c` stands at place `i` and is not escaped. -/
def Bare (c : Char) (t : Text) (i : Nat) : Prop := t[i]? = some c ∧ endBackslashes (t.take i) % 2 = 0

instance (c : Char) (t : Text) (i : Nat) : Decidable (Bare c t i) := inferInstanceAs (Decidable (_ ∧ _))

theorem endBackslashes_cons {x : Char} (hx : x ≠ '\\') (t : Text) :
    endBackslashes (x :: t) = endBackslashes t := by
  unfold endBackslashes
  rw [List.reverse_cons, List.takeWhile_append]
  split
  · rename_i h
    simpa [hx] using h.symm
  · rfl

/-- A backslash takes the character after it, which may be a backslash too. -/
theorem endBackslashes_pair (x : Char) (t : Text) :
    endBackslashes ('\\' :: x :: t) % 2 = endBackslashes t % 2 := by
  unfold endBackslashes
  rw [List.reverse_cons, List.reverse_cons, List.append_assoc, List.takeWhile_append]
  split
  · rename_i h
    rw [List.length_append, h]
    by_cases hx : x = '\\'
    · simp [hx]
    · simp [hx]
  · rfl

theorem bare_zero {c x : Char} {t : Text} : Bare c (x :: t) 0 ↔ x = c := by
  simp [Bare, endBackslashes]

theorem bare_succ {c x : Char} {t : Text} {i : Nat} (hx : x ≠ '\\') :
    Bare c (x :: t) (i + 1) ↔ Bare c t i := by
  simp [Bare, endBackslashes_cons hx]

theorem bare_pair {c x : Char} {t : Text} {i : Nat} : Bare c ('\\' :: x :: t) (i + 2) ↔ Bare c t i := by
  simp [Bare, endBackslashes_pair]

theorem not_bare_one {c x : Char} {t : Text} : ¬ Bare c ('\\' :: x :: t) 1 := by
  simp [Bare, endBackslashes]

/-- Reading a text from the left, a backslash takes the character after it along. -/
@[elab_as_elim]
theorem escape_induction {motive : Text → Prop} (t : Text) (nil : motive [])
    (pair : ∀ c rest, motive rest → motive ('\\' :: c :: rest))
    (char : ∀ c rest, c ≠ '\\' ∨ rest = [] → motive rest → motive (c :: rest)) : motive t :=
  match t with
  | [] => nil
  | [c] => char c [] (.inr rfl) nil
  | c :: d :: rest =>
    if h : c = '\\' then h ▸ pair d rest (escape_induction rest nil pair char)
    else char c (d :: rest) (.inl h) (escape_induction (d :: rest) nil pair char)

/-! ## The cut -/

/-- The part of a text through the first place at which it closes, `len` characters of closing mark
included, and the rest. Where it never closes, the part is the whole text. -/
inductive Through (Closes : Text → Nat → Prop) (len : Nat) : Text → Text → Bool → Text → Prop
  | closed {part rest : Text} {i : Nat} : Closes (part ++ rest) i →
      (∀ j, j < i → ¬ Closes (part ++ rest) j) → part.length = i + len →
      Through Closes len (part ++ rest) part true rest
  | unclosed {t : Text} : (∀ i, ¬ Closes t i) → Through Closes len t t false []

namespace Through

variable {Closes : Text → Nat → Prop} {len : Nat} {t part rest : Text} {closed : Bool}

theorem append_eq (h : Through Closes len t part closed rest) : part ++ rest = t := by
  cases h with
  | closed _ _ _ => rfl
  | unclosed _ => exact List.append_nil t

theorem rest_eq_nil (h : Through Closes len t part false rest) : rest = [] := by
  cases h with
  | unclosed _ => rfl

/-- There is one such cut. -/
theorem unique {part' rest' : Text} {closed' : Bool} (h : Through Closes len t part closed rest)
    (h' : Through Closes len t part' closed' rest') : part = part' ∧ closed = closed' ∧ rest = rest' := by
  rcases h with @⟨_, _, i, hi, hfirst, hlen⟩ | hno
  · generalize ht : part ++ rest = t at *
    rcases h' with @⟨_, _, j, hj, hfirst', hlen'⟩ | hno'
    · have hij : i = j := by
        apply Classical.byContradiction
        intro hne
        rcases Nat.lt_or_gt_of_ne hne with hlt | hgt
        · exact hfirst' i hlt hi
        · exact hfirst j hgt hj
      obtain ⟨h1, h2⟩ := List.append_inj ht (by omega)
      exact ⟨h1, rfl, h2⟩
    · exact absurd hi (hno' i)
  · rcases h' with @⟨_, _, j, hj, _, _⟩ | _
    · exact absurd hj (hno j)
    · exact ⟨rfl, rfl, rfl⟩

/-- A text that closes at once. -/
theorem here (mark : Text) (h : Closes (mark ++ rest) 0) (hlen : mark.length = len) :
    Through Closes len (mark ++ rest) mark true rest :=
  .closed h (fun _ hj => absurd hj (Nat.not_lt_zero _)) (by omega)

/-- One character further on, for a text that closes there and not before. -/
theorem cons {Closes' : Text → Nat → Prop} {c : Char} (h : Through Closes len t part closed rest)
    (hno : ¬ Closes' (c :: t) 0) (hiff : ∀ i, Closes' (c :: t) (i + 1) ↔ Closes t i) :
    Through Closes' len (c :: t) (c :: part) closed rest := by
  rcases h with @⟨_, _, i, hi, hfirst, hlen⟩ | hnone
  · refine @Through.closed Closes' len (c :: part) rest (i + 1) ((hiff i).mpr hi) ?_
      (by rw [List.length_cons, hlen]; omega)
    rintro (_ | j) hj hc
    · exact hno hc
    · exact hfirst j (by omega) ((hiff j).mp hc)
  · refine .unclosed ?_
    rintro (_ | j) hc
    · exact hno hc
    · exact hnone j ((hiff j).mp hc)

/-- Two characters further on. -/
theorem pair {Closes' : Text → Nat → Prop} {c d : Char} (h : Through Closes len t part closed rest)
    (hno : ¬ Closes' (c :: d :: t) 0) (hno' : ¬ Closes' (c :: d :: t) 1)
    (hiff : ∀ i, Closes' (c :: d :: t) (i + 2) ↔ Closes t i) :
    Through Closes' len (c :: d :: t) (c :: d :: part) closed rest := by
  have hd : Through (fun u i => Closes' (c :: u) (i + 1)) len (d :: t) (d :: part) closed rest :=
    h.cons hno' hiff
  exact hd.cons hno fun i => Iff.rfl

end Through

/-! ## Machines that make the cut -/

/-- A block comment closes at place `i`. -/
def CommentCloses (t : Text) (i : Nat) : Prop := t[i]? = some '*' ∧ t[i + 1]? = some '/'

/-- Place `i` lies in a class of a regular expression, for a text that starts in one or not. -/
def InClass (inside : Bool) (t : Text) (i : Nat) : Prop :=
  (inside = true ∧ ∀ k, k < i → ¬ Bare ']' t k) ∨
    ∃ j, j < i ∧ Bare '[' t j ∧ ∀ k, j < k → k < i → ¬ Bare ']' t k

/-- A regular expression closes at place `i`. -/
def RegexCloses (inside : Bool) (t : Text) (i : Nat) : Prop := Bare '/' t i ∧ ¬ InClass inside t i

/-- In a class or not, after an unescaped character. -/
def nextInside (c : Char) (inside : Bool) : Bool :=
  if c = '[' then true else if c = ']' then false else inside

theorem inClass_succ {inside : Bool} {c : Char} {t : Text} {i : Nat} (hc : c ≠ '\\') :
    InClass inside (c :: t) (i + 1) ↔ InClass (nextInside c inside) t i := by
  have hnone : (∀ k, 0 < k → k < i + 1 → ¬ Bare ']' (c :: t) k) ↔ ∀ k, k < i → ¬ Bare ']' t k := by
    constructor
    · intro h k hk hb
      exact h (k + 1) (by omega) (by omega) ((bare_succ hc).mpr hb)
    · intro h k hpos hk hb
      obtain ⟨k, rfl⟩ := Nat.exists_eq_succ_of_ne_zero (Nat.ne_of_gt hpos)
      exact h k (by omega) ((bare_succ hc).mp hb)
  have hlater : (∃ j, j < i ∧ Bare '[' (c :: t) (j + 1) ∧
      ∀ k, j + 1 < k → k < i + 1 → ¬ Bare ']' (c :: t) k) ↔
      ∃ j, j < i ∧ Bare '[' t j ∧ ∀ k, j < k → k < i → ¬ Bare ']' t k := by
    constructor
    · rintro ⟨j, hj, hb, h⟩
      exact ⟨j, hj, (bare_succ hc).mp hb, fun k h1 h2 hk =>
        h (k + 1) (by omega) (by omega) ((bare_succ hc).mpr hk)⟩
    · rintro ⟨j, hj, hb, h⟩
      refine ⟨j, hj, (bare_succ hc).mpr hb, fun k h1 h2 hk => ?_⟩
      obtain ⟨k, rfl⟩ := Nat.exists_eq_succ_of_ne_zero (Nat.ne_of_gt (Nat.zero_lt_of_lt h1))
      exact h k (by omega) (by omega) ((bare_succ hc).mp hk)
  have hopen : InClass inside (c :: t) (i + 1) ↔
      (inside = true ∧ c ≠ ']' ∨ c = '[') ∧ (∀ k, k < i → ¬ Bare ']' t k) ∨
        ∃ j, j < i ∧ Bare '[' t j ∧ ∀ k, j < k → k < i → ¬ Bare ']' t k := by
    rw [← hnone, ← hlater]
    constructor
    · rintro (⟨hin, h⟩ | ⟨j, hj, hb, h⟩)
      · refine .inl ⟨.inl ⟨hin, fun he => ?_⟩, fun k _ hk => h k hk⟩
        exact h 0 (by omega) (bare_zero.mpr he)
      · rcases j with _ | j
        · exact .inl ⟨.inr (bare_zero.mp hb), h⟩
        · exact .inr ⟨j, by omega, hb, h⟩
    · rintro (⟨⟨hin, hne⟩ | he, h⟩ | ⟨j, hj, hb, h⟩)
      · refine .inl ⟨hin, fun k hk => ?_⟩
        rcases k with _ | k
        · exact fun hb => hne (bare_zero.mp hb)
        · exact h (k + 1) (by omega) hk
      · exact .inr ⟨0, by omega, bare_zero.mpr he, h⟩
      · exact .inr ⟨j + 1, by omega, hb, h⟩
  rw [hopen]
  unfold InClass nextInside
  by_cases h1 : c = '['
  · simp [h1]
  · by_cases h2 : c = ']'
    · simp [h2]
    · simp [h1, h2]

theorem inClass_pair {inside : Bool} {c : Char} {t : Text} {i : Nat} :
    InClass inside ('\\' :: c :: t) (i + 2) ↔ InClass inside t i := by
  have hzero : ∀ b : Char, b ≠ '\\' → ¬ Bare b ('\\' :: c :: t) 0 := fun b hb h => hb (bare_zero.mp h).symm
  have hskip : ∀ (b : Char) (k : Nat), b ≠ '\\' → Bare b ('\\' :: c :: t) k → ∃ m, k = m + 2 ∧ Bare b t m := by
    intro b k hb h
    rcases k with _ | _ | k
    · exact absurd h (hzero b hb)
    · exact absurd h not_bare_one
    · exact ⟨k, rfl, bare_pair.mp h⟩
  constructor
  · rintro (⟨hin, h⟩ | ⟨j, hj, hb, h⟩)
    · exact .inl ⟨hin, fun k hk hk' => h (k + 2) (by omega) (bare_pair.mpr hk')⟩
    · obtain ⟨m, rfl, hm⟩ := hskip '[' j (by decide) hb
      exact .inr ⟨m, by omega, hm, fun k h1 h2 hk => h (k + 2) (by omega) (by omega) (bare_pair.mpr hk)⟩
  · rintro (⟨hin, h⟩ | ⟨j, hj, hb, h⟩)
    · refine .inl ⟨hin, fun k hk hk' => ?_⟩
      obtain ⟨m, rfl, hm⟩ := hskip ']' k (by decide) hk'
      exact h m (by omega) hm
    · refine .inr ⟨j + 2, by omega, bare_pair.mpr hb, fun k h1 h2 hk => ?_⟩
      obtain ⟨m, rfl, hm⟩ := hskip ']' k (by decide) hk
      exact h m (by omega) (by omega) hm

theorem inClass_zero {inside : Bool} {t : Text} : InClass inside t 0 ↔ inside = true := by
  simp [InClass]

section Run

variable {ρ : Type}

/-- A machine that blanks up to `*/`. `f` runs in the comment, `g` behind it. -/
theorem run_comment {f g : Text → Text → ρ}
    (hclose : ∀ back rest, f back ('*' :: '/' :: rest) = g (spaces 2 ++ back) rest)
    (hstep : ∀ back c rest, ¬ CommentCloses (c :: rest) 0 → f back (c :: rest) = f (blank c ++ back) rest)
    (back t : Text) :
    ∃ part closed rest, Through CommentCloses 2 t part closed rest ∧
      f back t = (bif closed then g else f) (spaces (width part) ++ back) rest := by
  induction t generalizing back with
  | nil => exact ⟨[], false, [], .unclosed fun i h => by simp [CommentCloses] at h, rfl⟩
  | cons c t ih =>
    by_cases hc : CommentCloses (c :: t) 0
    · obtain ⟨rest, rfl⟩ : ∃ rest, t = '/' :: rest := by
        rcases t with _ | ⟨d, rest⟩
        · simp [CommentCloses] at hc
        · have hd : d = '/' := by simpa using hc.2
          exact ⟨rest, by rw [hd]⟩
      have hstar : c = '*' := by simpa using hc.1
      subst hstar
      exact ⟨['*', '/'], true, rest, .here ['*', '/'] hc rfl, hclose back rest⟩
    · obtain ⟨part, closed, rest, hcut, hrun⟩ := ih (blank c ++ back)
      refine ⟨c :: part, closed, rest, hcut.cons hc fun i => by simp [CommentCloses], ?_⟩
      have hblank : spaces (width (c :: part)) ++ back = spaces (width part) ++ (blank c ++ back) := by
        rw [width_cons, Nat.add_comm, spaces_add, List.append_assoc]
        rfl
      rw [hstep back c t hc, hrun, hblank]

/-- A machine that keeps what it reads up to a bare `q`. `f` runs in the literal, `g` behind it. -/
theorem run_quoted {f g : Text → Text → ρ} {q : Char} (hq : q ≠ '\\')
    (hpair : ∀ back c rest, f back ('\\' :: c :: rest) = f (c :: '\\' :: back) rest)
    (hclose : ∀ back rest, f back (q :: rest) = g (q :: back) rest)
    (hstep : ∀ back c rest, c ≠ '\\' ∨ rest = [] → c ≠ q → f back (c :: rest) = f (c :: back) rest)
    (back t : Text) :
    ∃ part closed rest, Through (Bare q) 1 t part closed rest ∧
      f back t = (bif closed then g else f) (part.reverse ++ back) rest := by
  induction t using escape_induction generalizing back with
  | nil => exact ⟨[], false, [], .unclosed fun i h => by simp [Bare] at h, rfl⟩
  | pair c t ih =>
    obtain ⟨part, closed, rest, hcut, hrun⟩ := ih (c :: '\\' :: back)
    refine ⟨'\\' :: c :: part, closed, rest, hcut.pair ?_ not_bare_one fun i => bare_pair, ?_⟩
    · exact fun h => hq (bare_zero.mp h).symm
    · rw [hpair, hrun]
      simp
  | char c t hc ih =>
    by_cases hcq : c = q
    · subst hcq
      exact ⟨[c], true, t, .here [c] (bare_zero.mpr rfl) rfl, hclose back t⟩
    · obtain ⟨part, closed, rest, hcut, hrun⟩ := ih (c :: back)
      rcases hc with hc | rfl
      · refine ⟨c :: part, closed, rest, hcut.cons ?_ fun i => bare_succ hc, ?_⟩
        · exact fun h => hcq (bare_zero.mp h)
        · rw [hstep back c t (.inl hc) hcq, hrun]
          simp
      · -- A last character, perhaps a backslash that escapes nothing.
        refine ⟨[c], false, [], .unclosed ?_, hstep back c [] (.inr rfl) hcq⟩
        intro i h
        rcases i with _ | i
        · exact hcq (bare_zero.mp h)
        · simp [Bare] at h

/-- The same for a regular expression, with a machine for each side of a bracket. -/
theorem run_regex {f : Bool → Text → Text → ρ} {g : Text → Text → ρ}
    (hpair : ∀ inside back c rest, f inside back ('\\' :: c :: rest) = f inside (c :: '\\' :: back) rest)
    (hclose : ∀ back rest, f false back ('/' :: rest) = g ('/' :: back) rest)
    (hstep : ∀ inside back c rest, c ≠ '\\' ∨ rest = [] → ¬ (inside = false ∧ c = '/') →
      f inside back (c :: rest) = f (nextInside c inside) (c :: back) rest)
    (inside : Bool) (back t : Text) :
    ∃ part closed rest inside', Through (RegexCloses inside) 1 t part closed rest ∧
      f inside back t = (bif closed then g else f inside') (part.reverse ++ back) rest := by
  induction t using escape_induction generalizing inside back with
  | nil => exact ⟨[], false, [], inside, .unclosed fun i h => by simp [RegexCloses, Bare] at h, rfl⟩
  | pair c t ih =>
    obtain ⟨part, closed, rest, inside', hcut, hrun⟩ := ih inside (c :: '\\' :: back)
    refine ⟨'\\' :: c :: part, closed, rest, inside', hcut.pair ?_ ?_ fun i => ?_, ?_⟩
    · exact fun h => absurd (bare_zero.mp h.1) (by decide)
    · exact fun h => not_bare_one h.1
    · exact and_congr bare_pair (not_congr inClass_pair)
    · rw [hpair, hrun]
      simp
  | char c t hc ih =>
    by_cases hend : inside = false ∧ c = '/'
    · obtain ⟨rfl, rfl⟩ := hend
      refine ⟨['/'], true, t, false, .here ['/'] ⟨bare_zero.mpr rfl, ?_⟩ rfl, hclose back t⟩
      simp [inClass_zero]
    · have hfirst : ¬ RegexCloses inside (c :: t) 0 := by
        rintro ⟨h1, h2⟩
        rw [inClass_zero] at h2
        exact hend ⟨by simpa using h2, bare_zero.mp h1⟩
      obtain ⟨part, closed, rest, inside', hcut, hrun⟩ := ih (nextInside c inside) (c :: back)
      rcases hc with hc | rfl
      · refine ⟨c :: part, closed, rest, inside', hcut.cons hfirst fun i => ?_, ?_⟩
        · exact and_congr (bare_succ hc) (not_congr (inClass_succ hc))
        · rw [hstep inside back c t (.inl hc) hend, hrun]
          simp
      · refine ⟨[c], false, [], nextInside c inside, .unclosed ?_, hstep inside back c [] (.inr rfl) hend⟩
        intro i h
        rcases i with _ | i
        · exact hfirst h
        · simp [RegexCloses, Bare] at h

end Run

end FrontLint.Strip
