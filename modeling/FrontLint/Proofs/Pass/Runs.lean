/-
  FrontLint.Proofs.Pass.Runs — skipped lines cut a pass in runs, and each run is read as if it stood alone.

  A run is a part of consecutive lines that are not skipped, with a skipped line or nothing on both sides
  (`IsRun`). Nothing is open before its first line. Directives are read from all lines, so what a run loses
  by standing alone is a directive for the next line on the skipped line above it (`NamedAbove`). Proved:
  - `cleanFrom_append`: lines that are not skipped are cleaned as in a pass of their own, and leave open
    what they leave open there.
  - `silenced_part_iff`: which rules are silenced on a line of a run, by the run and by the line above it.
  - `exists_runs`: the runs of a pass, in order, have its cleaned lines.
  - `run_cut_by_skips`: the findings of a pass are those of its runs, one after the other.
-/

import FrontLint.Proofs.Pass.Relocation

namespace FrontLint

open FrontLint.Text FrontLint.Strip

/-! ## Findings of several lists -/

namespace Candidate

theorem findings_flatMap {α : Type} (l : List α) (f : α → List Candidate) :
    findings (l.flatMap f) = l.flatMap fun a => findings (f a) := by
  simp only [findings, List.filter_flatMap, List.map_flatMap]

/-- What is left out can be told from the findings. -/
theorem findings_filter (keep : Finding → Bool) (cs : List Candidate) :
    findings (cs.filter fun c => keep c.finding) = (findings cs).filter keep := by
  rw [findings, findings, List.filter_map, List.filter_filter, List.filter_filter]
  simp only [Function.comp_apply, Bool.and_comm]

end Candidate

/-! ## Directives of a part -/

/-- A directive for the next line, on the line above line `i`, names rule `id`. -/
def NamedAbove (lines : List Text) (i : Nat) (id : String) : Prop := ∃ k, i = k + 1 ∧ Names lines true k id

instance (lines : List Text) (i : Nat) (id : String) : Decidable (NamedAbove lines i id) :=
  decidable_of_iff _ Suppressions.fromAbove_ofLines

section Part

variable {lines : List Text} {first stop j : Nat} {id : String}

theorem getElem?_part (hj : first + j < stop) : ((lines.take stop).drop first)[j]? = lines[first + j]? := by
  rw [List.getElem?_drop, List.getElem?_take_of_lt hj]

theorem names_part_iff {next : Bool} (hj : first + j < stop) :
    Names ((lines.take stop).drop first) next j id ↔ Names lines next (first + j) id := by
  rw [Names, Names, getElem?_part hj]

/-- On its first line, a part is also silenced from above. -/
theorem silenced_part_iff (hj : first + j < stop) :
    Silenced lines (first + j) id ↔
      Silenced ((lines.take stop).drop first) j id ∨ j = 0 ∧ NamedAbove lines first id := by
  unfold Silenced
  rw [names_part_iff hj]
  cases j with
  | zero =>
    have hnone : ¬ ∃ k, 0 = k + 1 ∧ Names ((lines.take stop).drop first) true k id := by
      rintro ⟨k, hk, -⟩
      omega
    simp only [hnone, or_false, true_and]
    rfl
  | succ j =>
    have habove : (∃ k, first + (j + 1) = k + 1 ∧ Names lines true k id) ↔
        ∃ k, j + 1 = k + 1 ∧ Names ((lines.take stop).drop first) true k id := by
      constructor
      · rintro ⟨k, hk, h⟩
        obtain rfl : k = first + j := by omega
        exact ⟨j, rfl, (names_part_iff (by omega)).mpr h⟩
      · rintro ⟨k, hk, h⟩
        obtain rfl : k = j := by omega
        exact ⟨first + k, rfl, (names_part_iff (by omega)).mp h⟩
    rw [habove]
    simp

end Part

/-! ## Runs -/

/-- A line of a part that starts at line `n`. -/
def CleanLine.below (n : Nat) (l : CleanLine) : CleanLine := { l with index := n + l.index }

namespace LinePass

variable {p : LinePass} {lines : List Text}

/-- The lines from `first` up to `stop` are a run of a pass over `n` lines. -/
structure IsRun (p : LinePass) (n first stop : Nat) : Prop extends RunsUpTo p first stop where
  lt : first < stop
  stop_le : stop ≤ n
  ends : stop = n ∨ p.Skips stop

/-- Where a run starts says where it ends. -/
theorem IsRun.stop_unique {n first stop stop' : Nat} (h : p.IsRun n first stop) (h' : p.IsRun n first stop') :
    stop = stop' := by
  have not_lt : ∀ {a b : Nat}, p.IsRun n first a → p.IsRun n first b → ¬ a < b := by
    intro a b ha hb hab
    have hlt := ha.lt
    rcases ha.ends with rfl | hskip
    · have := hb.stop_le
      omega
    · exact hb.none_skipped a (by omega) hab hskip
  have h1 := not_lt h h'
  have h2 := not_lt h' h
  omega

/-- A run goes on up to a skipped line or the end. -/
theorem exists_stop (p : LinePass) {n i : Nat} (hi : i < n) (hskip : ¬ p.Skips i) :
    ∃ stop, i < stop ∧ stop ≤ n ∧ (∀ j, i ≤ j → j < stop → ¬ p.Skips j) ∧ (stop = n ∨ p.Skips stop) := by
  induction hm : n - i generalizing i with
  | zero => omega
  | succ m ih =>
    have hhere : ∀ j, i ≤ j → j < i + 1 → ¬ p.Skips j := by
      intro j h1 h2
      obtain rfl : j = i := by omega
      exact hskip
    by_cases hnext : i + 1 = n ∨ p.Skips (i + 1)
    · exact ⟨i + 1, by omega, hi, hhere, hnext⟩
    · rw [not_or] at hnext
      obtain ⟨stop, h1, h2, h3, h4⟩ := ih (by omega) hnext.2 (by omega)
      refine ⟨stop, by omega, h2, fun j hj hlt => ?_, h4⟩
      by_cases hij : i + 1 ≤ j
      · exact h3 j hij hlt
      · exact hhere j hj (by omega)

/-- `runs` are the runs of a pass over `n` lines that start at line `i` or below, in order. -/
structure RunsFrom (p : LinePass) (n i : Nat) (runs : List (Nat × Nat)) : Prop where
  ordered : runs.Pairwise fun a b => a.2 < b.1
  mem_iff : ∀ r, r ∈ runs ↔ i ≤ r.1 ∧ p.IsRun n r.1 r.2

namespace RunsFrom

variable {n i stop : Nat} {runs : List (Nat × Nat)}

theorem done (h : n ≤ i) : p.RunsFrom n i [] := by
  refine ⟨.nil, fun r => ⟨fun hr => by simp at hr, fun ⟨hle, hr⟩ => ?_⟩⟩
  have h1 := hr.lt
  have h2 := hr.stop_le
  omega

theorem skip (hskip : p.Skips i) (h : p.RunsFrom n (i + 1) runs) : p.RunsFrom n i runs := by
  refine ⟨h.ordered, fun r => (h.mem_iff r).trans (and_congr_left fun hr => ⟨fun hle => by omega, fun hle => ?_⟩)⟩
  have hne : i ≠ r.1 := by
    rintro rfl
    exact hr.none_skipped r.1 (Nat.le_refl _) hr.lt hskip
  omega

theorem run (hrun : p.IsRun n i stop) (h : p.RunsFrom n stop runs) : p.RunsFrom n i ((i, stop) :: runs) := by
  have hlt := hrun.lt
  have hlater : ∀ r ∈ runs, stop < r.1 := by
    intro r hr
    obtain ⟨hle, hr⟩ := (h.mem_iff r).mp hr
    apply Nat.lt_of_le_of_ne hle
    intro he
    rcases hrun.ends with rfl | hskip
    · have h1 := hr.lt
      have h2 := hr.stop_le
      omega
    · exact hr.none_skipped stop (by omega) (by have := hr.lt; omega) hskip
  refine ⟨.cons hlater h.ordered, fun r => ⟨fun hr => ?_, fun ⟨hle, hr⟩ => ?_⟩⟩
  · rcases List.mem_cons.mp hr with rfl | hr
    · exact ⟨Nat.le_refl _, hrun⟩
    · obtain ⟨hle, hr⟩ := (h.mem_iff r).mp hr
      exact ⟨by omega, hr⟩
  · by_cases hfirst : r.1 = i
    · obtain ⟨first, last⟩ := r
      obtain rfl : first = i := hfirst
      obtain rfl : last = stop := hr.stop_unique hrun
      exact List.mem_cons_self
    · -- Another run starts behind a skipped line, so not in this one.
      refine List.mem_cons_of_mem _ ((h.mem_iff r).mpr ⟨?_, hr⟩)
      rcases hr.starts with h0 | hskip
      · omega
      · apply Classical.byContradiction
        intro hin
        exact hrun.none_skipped (r.1 - 1) (by omega) (by omega) hskip

end RunsFrom

/-! ## The lines of a run -/

/-- Lines that are not skipped are cleaned as in a pass of their own. -/
theorem cleanFrom_append {q : LinePass} (hq : ∀ i, ¬ q.Skips i) {n k : Nat} (s : Stripper) (a b : List Text)
    (hp : ∀ j, k ≤ j → j < k + a.length → ¬ p.Skips (n + j)) :
    p.cleanFrom (n + k) s (a ++ b) = (q.cleanFrom k s a).map (CleanLine.below n) ++
      p.cleanFrom (n + k + a.length) ⟨s.mode, openAfter s.mode s.state a⟩ b := by
  induction a generalizing k s with
  | nil => rfl
  | cons raw a ih =>
    have hlen : (raw :: a).length = a.length + 1 := rfl
    have hrest := ih (k := k + 1) ⟨s.mode, (strip s.mode raw s.state).2⟩ fun j h1 h2 => hp j (by omega) (by omega)
    rw [List.cons_append, cleanFrom_read (hp k (Nat.le_refl _) (by omega)), cleanFrom_read (hq k), List.map_cons,
      List.cons_append, hlen, show n + k + (a.length + 1) = n + (k + 1) + a.length by omega,
      show n + k + 1 = n + (k + 1) by omega, hrest]
    rfl

/-- The cleaned lines of a run that stands alone, with their numbers in the whole pass. -/
def runLines (p : LinePass) (lines : List Text) (r : Nat × Nat) : List CleanLine :=
  ((p.unskipped.movedBy r.1).cleanLines ((lines.take r.2).drop r.1)).map (CleanLine.below r.1)

theorem cleanFrom_run {first stop : Nat} (h : p.IsRun lines.length first stop) :
    ∃ s, s.mode = p.mode ∧ p.cleanFrom first (.start p.mode) (lines.drop first) =
      p.runLines lines (first, stop) ++ p.cleanFrom stop s (lines.drop stop) := by
  have hlen : ((lines.take stop).drop first).length = stop - first := by
    rw [List.length_drop, List.length_take, Nat.min_eq_left h.stop_le]
  have hle := Nat.le_of_lt h.lt
  have hclean := cleanFrom_append (p := p) (q := p.unskipped.movedBy first) (n := first) (k := 0)
    (not_skips_unskipped (p := p)) (.start p.mode) ((lines.take stop).drop first) (lines.drop stop)
    fun j _ hj => h.none_skipped (first + j) (by omega) (by omega)
  rw [← drop_eq_part_append lines hle, hlen, Nat.add_zero, Nat.add_sub_cancel' hle] at hclean
  exact ⟨_, rfl, hclean⟩

/-- From a line on that is the first one or stands behind a skipped one, the cleaned lines of a pass are those
of its runs. -/
theorem exists_runs_from {i : Nat} (hi : i ≤ lines.length) (hstart : i = 0 ∨ p.Skips (i - 1)) :
    ∃ runs, p.RunsFrom lines.length i runs ∧
      p.cleanFrom i (.start p.mode) (lines.drop i) = runs.flatMap (p.runLines lines) := by
  induction hm : lines.length - i using Nat.strongRecOn generalizing i with
  | _ m ih =>
  -- Behind a skipped line everything starts afresh, whatever was open before it.
  have hbehind : ∀ {k : Nat} {s : Stripper}, s.mode = p.mode → i ≤ k → k < lines.length → p.Skips k →
      ∃ runs, p.RunsFrom lines.length k runs ∧
        p.cleanFrom k s (lines.drop k) = runs.flatMap (p.runLines lines) := by
    intro k s hmode hik hk hskip
    obtain ⟨runs, hruns, hclean⟩ := ih (lines.length - (k + 1)) (by omega) (i := k + 1) (by omega) (.inr hskip) rfl
    refine ⟨runs, hruns.skip hskip, ?_⟩
    rw [List.drop_eq_getElem_cons hk, cleanFrom_skip hskip, ← hclean, Stripper.reset, hmode]
    rfl
  by_cases hend : i = lines.length
  · refine ⟨[], .done (by omega), ?_⟩
    rw [hend, List.drop_length]
    rfl
  by_cases hskip : p.Skips i
  · exact hbehind rfl (Nat.le_refl _) (by omega) hskip
  · obtain ⟨stop, h1, h2, h3, h4⟩ := p.exists_stop (show i < lines.length by omega) hskip
    have hrun : p.IsRun lines.length i stop := ⟨⟨Nat.le_of_lt h1, h3, hstart⟩, h1, h2, h4⟩
    obtain ⟨s, hmode, hclean⟩ := cleanFrom_run hrun
    have hrest : ∃ runs, p.RunsFrom lines.length stop runs ∧
        p.cleanFrom stop s (lines.drop stop) = runs.flatMap (p.runLines lines) := by
      rcases Nat.lt_or_eq_of_le h2 with hlt | rfl
      · exact hbehind hmode (by omega) hlt (h4.resolve_left (by omega))
      · refine ⟨[], .done (Nat.le_refl _), ?_⟩
        rw [List.drop_length]
        rfl
    obtain ⟨runs, hruns, hbehind⟩ := hrest
    refine ⟨(i, stop) :: runs, hruns.run hrun, ?_⟩
    rw [hclean, hbehind, List.flatMap_cons]

theorem exists_runs (p : LinePass) (lines : List Text) :
    ∃ runs, p.RunsFrom lines.length 0 runs ∧ p.cleanLines lines = runs.flatMap (p.runLines lines) := by
  have h := @exists_runs_from p lines 0 (Nat.zero_le _) (.inl rfl)
  rwa [List.drop_zero] at h

/-! ## The findings of a run -/

/-- A finding of the run that starts at line `first` is not on that line, or no directive for the next line
above it names the rule. -/
def HeardBelow (p : LinePass) (lines : List Text) (first : Nat) (f : Finding) : Prop :=
  ¬ (f.line = p.offset + first + 1 ∧ NamedAbove lines first f.ruleId)

instance (first : Nat) (f : Finding) : Decidable (p.HeardBelow lines first f) := inferInstanceAs (Decidable (¬ _))

section Run

variable {first stop : Nat} {l : CleanLine}

theorem candidate_below (r : Rule) (m : Match) :
    p.candidate (l.below first) r m = (p.unskipped.movedBy first).candidate l r m := by
  simp only [candidate, CleanLine.below, movedBy, unskipped, Nat.add_assoc]

theorem ruleCandidates_below (hl : first + l.index < stop) (r : Rule) :
    p.ruleCandidates (.ofLines lines) (l.below first) r =
      ((p.unskipped.movedBy first).ruleCandidates (.ofLines ((lines.take stop).drop first)) l r).filter
        fun c => p.HeardBelow lines first c.finding := by
  have hwhole : (Suppressions.ofLines lines).silences (l.below first).index r.id = true ↔ _ :=
    Suppressions.silences_ofLines.trans (silenced_part_iff hl)
  have halone : (Suppressions.ofLines ((lines.take stop).drop first)).silences l.index r.id = true ↔ _ :=
    Suppressions.silences_ofLines
  -- All candidates of a rule on a line are heard, or none is.
  have hheard : ∀ m, p.HeardBelow lines first ((p.unskipped.movedBy first).candidate l r m).finding ↔
      ¬ (l.index = 0 ∧ NamedAbove lines first r.id) := by
    intro m
    refine not_congr (and_congr_left' ?_)
    show p.offset + first + l.index + 1 = p.offset + first + 1 ↔ l.index = 0
    omega
  unfold ruleCandidates
  by_cases hs : Silenced ((lines.take stop).drop first) l.index r.id
  · rw [if_pos (hwhole.mpr (.inl hs)), if_pos (halone.mpr hs), List.filter_nil]
  rw [if_neg (fun h => hs (halone.mp h)), List.filter_map]
  by_cases habove : l.index = 0 ∧ NamedAbove lines first r.id
  · rw [if_pos (hwhole.mpr (.inr habove)), List.filter_eq_nil_iff.mpr, List.map_nil]
    intro m _ hm
    exact (hheard m).mp (of_decide_eq_true hm) habove
  · rw [if_neg (fun h => (hwhole.mp h).elim hs habove), List.filter_eq_self.mpr]
    · exact List.map_congr_left fun m _ => candidate_below r m
    · intro m _
      exact decide_eq_true ((hheard m).mpr habove)

theorem lineCandidates_below (hl : first + l.index < stop) (rules : List Rule) :
    p.lineCandidates rules (.ofLines lines) (l.below first) =
      ((p.unskipped.movedBy first).lineCandidates rules (.ofLines ((lines.take stop).drop first)) l).filter
        fun c => p.HeardBelow lines first c.finding := by
  unfold lineCandidates
  by_cases hb : l.cleaned.allBlank = true
  · rw [if_pos hb, if_pos (show (l.below first).cleaned.allBlank = true from hb), List.filter_nil]
  · rw [if_neg hb, if_neg (show ¬ (l.below first).cleaned.allBlank = true from hb), List.filter_flatMap]
    exact List.flatMap_congr fun r _ => ruleCandidates_below hl r

theorem candidates_runLines (hlen : stop ≤ lines.length) (t : RuleTable) :
    (p.runLines lines (first, stop)).flatMap (p.lineCandidates (p.activeRules t) (.ofLines lines)) =
      ((p.unskipped.movedBy first).candidates t ((lines.take stop).drop first)).filter
        fun c => p.HeardBelow lines first c.finding := by
  rw [runLines, List.flatMap_map, candidates, List.filter_flatMap]
  refine List.flatMap_congr fun l hl => lineCandidates_below ?_ _
  obtain ⟨hlt, -⟩ := List.getElem?_eq_some_iff.mp (mem_cleanLines.mp hl).raw_eq
  rw [List.length_drop, List.length_take, Nat.min_eq_left hlen] at hlt
  omega

end Run

/-- A pass finds what its runs find, each read alone and where it stands, one after the other. Only what a
directive on the skipped line above a run silences on its first line is left out. -/
theorem run_cut_by_skips (p : LinePass) (t : RuleTable) (lines : List Text) :
    ∃ runs : List (Nat × Nat), (runs.Pairwise fun a b => a.2 < b.1) ∧
      (∀ r, r ∈ runs ↔ p.IsRun lines.length r.1 r.2) ∧
      p.run t lines = runs.flatMap fun r =>
        ((p.unskipped.movedBy r.1).run t ((lines.take r.2).drop r.1)).filter fun f =>
          p.HeardBelow lines r.1 f := by
  obtain ⟨runs, hruns, hclean⟩ := exists_runs p lines
  have hmem : ∀ r, r ∈ runs ↔ p.IsRun lines.length r.1 r.2 := fun r =>
    (hruns.mem_iff r).trans (and_iff_right (Nat.zero_le _))
  refine ⟨runs, hruns.ordered, hmem, ?_⟩
  rw [run, candidates, hclean, List.flatMap_assoc, Candidate.findings_flatMap]
  refine List.flatMap_congr fun r hr => ?_
  rw [candidates_runLines ((hmem r).mp hr).stop_le]
  exact Candidate.findings_filter (fun f => p.HeardBelow lines r.1 f) _

end LinePass

end FrontLint
