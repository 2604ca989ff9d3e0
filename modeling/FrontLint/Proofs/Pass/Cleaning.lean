/-
  FrontLint.Proofs.Pass.Cleaning — the lines of a pass, cleaned.

  Skipped lines cut a pass in runs of consecutive lines. Within a run, each line is cleaned with what
  the lines before it leave open, the first one with nothing open. `OpenAt` says what is open before a
  line, `Cleans` what the cleaned line is. Proved:
  - `OpenAt.unique`: one state is open before a line.
  - `mem_cleanLines`: the lines of a pass are the cleaned lines that are not skipped.
  - `cleanLines_pairwise`: they come in order, each once.
-/

import FrontLint.Pass.Line

namespace FrontLint

/-- What is open after some lines, read one after the other. -/
def Strip.openAfter (mode : Mode) (s : State) (ls : List Text) : State :=
  ls.foldl (fun s l => (strip mode l s).2) s

theorem Strip.openAfter_concat (mode : Mode) (s : State) (ls : List Text) (l : Text) :
    openAfter mode s (ls ++ [l]) = (strip mode l (openAfter mode s ls)).2 := by
  simp [openAfter]

/-- The first of the lines from line `i` on, and those behind it. -/
theorem next_of_drop {lines rest : List Text} {raw : Text} {i : Nat} (h : lines.drop i = raw :: rest) :
    lines[i]? = some raw ∧ lines.drop (i + 1) = rest := by
  constructor
  · rw [← Nat.add_zero i, ← List.getElem?_drop, h, List.getElem?_cons_zero]
  · rw [← List.tail_drop, h, List.tail_cons]

namespace LinePass

open FrontLint.Strip

variable {p : LinePass} {lines : List Text}

/-- One of the skipped parts, each half open, covers line `i`. -/
def Skips (p : LinePass) (i : Nat) : Prop := ∃ part ∈ p.skips, part.1 ≤ i ∧ i < part.2

theorem skipsLine_iff {i : Nat} : p.skipsLine i = true ↔ p.Skips i := by
  simp [skipsLine, Skips]

theorem cleanFrom_skip {i : Nat} (h : p.Skips i) (s : Stripper) (raw : Text) (rest : List Text) :
    p.cleanFrom i s (raw :: rest) = p.cleanFrom (i + 1) s.reset rest := by
  rw [cleanFrom, if_pos (skipsLine_iff.mpr h)]

theorem cleanFrom_read {i : Nat} (h : ¬ p.Skips i) (s : Stripper) (raw : Text) (rest : List Text) :
    p.cleanFrom i s (raw :: rest) = ⟨i, raw, (strip s.mode raw s.state).1⟩ ::
      p.cleanFrom (i + 1) ⟨s.mode, (strip s.mode raw s.state).2⟩ rest := by
  rw [cleanFrom, if_neg (fun hs => h (skipsLine_iff.mp hs))]
  rfl

/-- A run starts at line `first` and goes on up to line `i`. -/
structure RunsUpTo (p : LinePass) (first i : Nat) : Prop where
  le : first ≤ i
  none_skipped : ∀ j, first ≤ j → j < i → ¬ p.Skips j
  starts : first = 0 ∨ p.Skips (first - 1)

theorem RunsUpTo.unique {first first' i : Nat} (h : p.RunsUpTo first i) (h' : p.RunsUpTo first' i) :
    first = first' := by
  have not_lt : ∀ {a b : Nat}, p.RunsUpTo a i → p.RunsUpTo b i → ¬ a < b := by
    intro a b ha hb hlt
    rcases hb.starts with rfl | hskip
    · omega
    · have := hb.le
      exact ha.none_skipped (b - 1) (by omega) (by omega) hskip
  have h1 := not_lt h h'
  have h2 := not_lt h' h
  omega

/-- State `s` is open before line `i`: what the lines of its run before it leave open. -/
def OpenAt (p : LinePass) (lines : List Text) (i : Nat) (s : State) : Prop :=
  ∃ first, p.RunsUpTo first i ∧ s = openAfter p.mode .neutral ((lines.take i).drop first)

namespace OpenAt

variable {i : Nat} {s s' : State}

theorem unique (h : p.OpenAt lines i s) (h' : p.OpenAt lines i s') : s = s' := by
  obtain ⟨first, hrun, rfl⟩ := h
  obtain ⟨first', hrun', rfl⟩ := h'
  rw [hrun.unique hrun']

theorem zero : p.OpenAt lines 0 .neutral :=
  ⟨0, ⟨Nat.le_refl _, fun j _ hj => absurd hj (Nat.not_lt_zero j), .inl rfl⟩, rfl⟩

/-- Nothing is open behind a skipped line. -/
theorem skip (h : p.Skips i) : p.OpenAt lines (i + 1) .neutral := by
  refine ⟨i + 1, ⟨Nat.le_refl _, fun j h1 h2 => by omega, .inr h⟩, ?_⟩
  rw [List.drop_eq_nil_of_le (by rw [List.length_take]; omega)]
  rfl

theorem step {raw : Text} (h : p.OpenAt lines i s) (hraw : lines[i]? = some raw) (hno : ¬ p.Skips i) :
    p.OpenAt lines (i + 1) (strip p.mode raw s).2 := by
  obtain ⟨first, hrun, rfl⟩ := h
  obtain ⟨hi, -⟩ := List.getElem?_eq_some_iff.mp hraw
  have hle := hrun.le
  refine ⟨first, ⟨by omega, fun j h1 h2 => ?_, hrun.starts⟩, ?_⟩
  · rcases Nat.eq_or_lt_of_le (Nat.le_of_lt_succ h2) with rfl | hlt
    · exact hno
    · exact hrun.none_skipped j h1 hlt
  · rw [List.take_add_one, hraw, Option.toList_some,
      List.drop_append_of_le_length (by rw [List.length_take]; omega), openAfter_concat]

end OpenAt

/-- Line number `l.index` is not skipped, and `l.cleaned` is its cleaned text. -/
structure Cleans (p : LinePass) (lines : List Text) (l : CleanLine) : Prop where
  unskipped : ¬ p.Skips l.index
  raw_eq : lines[l.index]? = some l.raw
  cleaned_eq : ∃ s, p.OpenAt lines l.index s ∧ l.cleaned = (strip p.mode l.raw s).1

theorem Cleans.unique {l l' : CleanLine} (h : p.Cleans lines l) (h' : p.Cleans lines l')
    (hi : l.index = l'.index) : l = l' := by
  obtain ⟨i, raw, cleaned⟩ := l
  obtain ⟨j, raw', cleaned'⟩ := l'
  obtain rfl : i = j := hi
  obtain rfl : raw = raw' := Option.some.inj (h.raw_eq.symm.trans h'.raw_eq)
  obtain ⟨s, hs, hclean⟩ := h.cleaned_eq
  obtain ⟨s', hs', hclean'⟩ := h'.cleaned_eq
  rw [hs.unique hs', ← hclean'] at hclean
  exact congrArg (CleanLine.mk i raw) hclean

theorem mem_cleanFrom_iff {i : Nat} {s : Stripper} {rest : List Text} (hrest : lines.drop i = rest)
    (hmode : s.mode = p.mode) (hopen : p.OpenAt lines i s.state) {l : CleanLine} :
    l ∈ p.cleanFrom i s rest ↔ i ≤ l.index ∧ p.Cleans lines l := by
  induction rest generalizing i s with
  | nil =>
    have hlen := List.drop_eq_nil_iff.mp hrest
    refine ⟨fun h => by simp [cleanFrom] at h, fun ⟨hle, hl⟩ => ?_⟩
    obtain ⟨hi, -⟩ := List.getElem?_eq_some_iff.mp hl.raw_eq
    omega
  | cons raw rest ih =>
    obtain ⟨hraw, hnext⟩ := next_of_drop hrest
    by_cases hskip : p.Skips i
    · rw [cleanFrom_skip hskip, ih (s := s.reset) hnext hmode (.skip hskip)]
      refine and_congr_left fun hl => ⟨fun h => by omega, fun h => ?_⟩
      have : i ≠ l.index := fun he => hl.unskipped (he ▸ hskip)
      omega
    · have hstep : p.OpenAt lines (i + 1) (strip s.mode raw s.state).2 := by
        rw [hmode]
        exact hopen.step hraw hskip
      rw [cleanFrom_read hskip, List.mem_cons,
        ih (s := ⟨s.mode, (strip s.mode raw s.state).2⟩) hnext hmode hstep, hmode]
      constructor
      · rintro (rfl | ⟨h, hl⟩)
        · exact ⟨Nat.le_refl _, hskip, hraw, _, hopen, rfl⟩
        · exact ⟨by omega, hl⟩
      · rintro ⟨hle, hl⟩
        rcases Nat.eq_or_lt_of_le hle with rfl | hlt
        · exact .inl (hl.unique ⟨hskip, hraw, _, hopen, rfl⟩ rfl)
        · exact .inr ⟨hlt, hl⟩

/-- The lines of a pass are the cleaned lines that are not skipped. -/
theorem mem_cleanLines {l : CleanLine} : l ∈ p.cleanLines lines ↔ p.Cleans lines l := by
  rw [cleanLines, mem_cleanFrom_iff (s := .start p.mode) List.drop_zero rfl .zero]
  exact and_iff_right (Nat.zero_le _)

theorem le_index_of_mem_cleanFrom {i : Nat} {s : Stripper} {rest : List Text} {l : CleanLine}
    (h : l ∈ p.cleanFrom i s rest) : i ≤ l.index := by
  induction rest generalizing i s with
  | nil => simp [cleanFrom] at h
  | cons raw rest ih =>
    rw [cleanFrom] at h
    split at h
    · exact Nat.le_of_succ_le (ih h)
    · rcases List.mem_cons.mp h with rfl | h
      · exact Nat.le_refl _
      · exact Nat.le_of_succ_le (ih h)

theorem cleanFrom_pairwise (i : Nat) (s : Stripper) (rest : List Text) :
    (p.cleanFrom i s rest).Pairwise fun a b => a.index < b.index := by
  induction rest generalizing i s with
  | nil => exact .nil
  | cons raw rest ih =>
    rw [cleanFrom]
    split
    · exact ih _ _
    · exact .cons (fun b hb => le_index_of_mem_cleanFrom hb) (ih _ _)

/-- The lines of a pass come in order. -/
theorem cleanLines_pairwise (p : LinePass) (lines : List Text) :
    (p.cleanLines lines).Pairwise fun a b => a.index < b.index :=
  cleanFrom_pairwise _ _ _

end LinePass

end FrontLint
