/-
  FrontLint.Proofs.Pass.Relocation — a run of lines is read the same wherever it stands, and whatever its
  file is called.

  The file and the lines before a run have an influence on what a validator is told and on nothing else.
  As long as no validator of the table looks at it (`RuleTable.BlindTo`), only the findings show it. And a
  first line that is blank, leaves nothing open and silences nothing (`Idle`) may be any other such line.
  Proved:
  - `candidates_seenAs`: a pass that differs in its file and the lines before it has the same candidates,
    seen as in that place.
  - `Candidate.findings_seenAs`: what is found is accepted in any place; `findings_below` on any line.
  - `candidates_movedBy`: a pass further down finds the same further down.
  - `idle_spaces`: a line of spaces is idle in every language.
  - `candidates_idle`: which idle line comes first does not matter.
-/

import FrontLint.Proofs.Directive.Reading
import FrontLint.Proofs.Pass.Skipping
import FrontLint.Proofs.Strip.Rerun

namespace FrontLint

open FrontLint.Text FrontLint.Strip

/-! ## Another place -/

/-- No validator of the table tells a context from its image. -/
def RuleTable.BlindTo (t : RuleTable) (g : MatchContext → MatchContext) : Prop :=
  ∀ r ∈ t.rules, ∀ v, r.validator = some v → ∀ matched context,
    v.accepts matched (g context) = v.accepts matched context

namespace Candidate

/-- A candidate whose validator is told another context. -/
def seenAs (g : MatchContext → MatchContext) (c : Candidate) : Candidate := { c with context := g c.context }

theorem accepted_seenAs {t : RuleTable} {g : MatchContext → MatchContext} (ht : t.BlindTo g) {c : Candidate}
    (hc : c.rule ∈ t.rules) : (c.seenAs g).accepted = c.accepted := by
  unfold accepted Rule.accepts
  cases hv : c.rule.validator with
  | none => simp [seenAs, hv]
  | some v =>
    simp only [seenAs, hv]
    exact ht c.rule hc v hv c.matched c.context

/-- What is found is accepted in any place that no validator tells apart. -/
theorem findings_seenAs {t : RuleTable} {g : MatchContext → MatchContext} (ht : t.BlindTo g)
    {cs : List Candidate} (hcs : ∀ c ∈ cs, c.rule ∈ t.rules) {h : Finding → Finding}
    (hfinding : ∀ c, (seenAs g c).finding = h c.finding) :
    findings (cs.map (seenAs g)) = (findings cs).map h := by
  have haccepted : cs.filter (accepted ∘ seenAs g) = cs.filter accepted := by
    refine List.filter_congr fun c hc => ?_
    exact accepted_seenAs ht (hcs c hc)
  unfold findings
  rw [List.filter_map, haccepted, List.map_map, List.map_map]
  exact List.map_congr_left fun c _ => hfinding c

end Candidate

namespace LinePass

variable {p p' : LinePass} {g : MatchContext → MatchContext}

theorem cleanFrom_congr (hskips : p'.skips = p.skips) (i : Nat) (s : Stripper) (lines : List Text) :
    p'.cleanFrom i s lines = p.cleanFrom i s lines := by
  induction lines generalizing i s with
  | nil => rfl
  | cons raw rest ih =>
    have hline : p'.skipsLine i = p.skipsLine i := by
      unfold skipsLine
      rw [hskips]
    simp only [cleanFrom, hline, ih]

theorem lineCandidates_seenAs
    (hplace : ∀ i content, g ⟨p.file, p.offset + i + 1, content⟩ = ⟨p'.file, p'.offset + i + 1, content⟩)
    (rules : List Rule) (silenced : Suppressions) (l : CleanLine) :
    p'.lineCandidates rules silenced l = (p.lineCandidates rules silenced l).map (Candidate.seenAs g) := by
  have hcandidate : ∀ r m, p'.candidate l r m = (p.candidate l r m).seenAs g := by
    intro r m
    simp only [candidate, Candidate.seenAs, hplace]
  have hrule : ∀ r, p'.ruleCandidates silenced l r =
      (p.ruleCandidates silenced l r).map (Candidate.seenAs g) := by
    intro r
    unfold ruleCandidates
    split
    · rfl
    · rw [List.map_map]
      exact List.map_congr_left fun m _ => hcandidate r m
  unfold lineCandidates
  split
  · rfl
  · rw [List.map_flatMap]
    exact List.flatMap_congr fun r _ => hrule r

/-- A pass that differs in its file and in the lines before it has the same candidates, seen as there. -/
theorem candidates_seenAs (hmode : p'.mode = p.mode) (hclass : p'.fileClass = p.fileClass)
    (hskips : p'.skips = p.skips)
    (hplace : ∀ i content, g ⟨p.file, p.offset + i + 1, content⟩ = ⟨p'.file, p'.offset + i + 1, content⟩)
    (t : RuleTable) (lines : List Text) :
    p'.candidates t lines = (p.candidates t lines).map (Candidate.seenAs g) := by
  have hrules : p'.activeRules t = p.activeRules t := by
    unfold activeRules
    rw [hmode, hclass]
  have hclean : p'.cleanLines lines = p.cleanLines lines := by
    unfold cleanLines
    rw [hmode, cleanFrom_congr hskips]
  rw [candidates, candidates, hrules, hclean, List.map_flatMap]
  exact List.flatMap_congr fun l _ => lineCandidates_seenAs hplace _ _ l

end LinePass

/-! ## Further down -/

/-- A finding `n` lines further down. -/
def Finding.below (n : Nat) (f : Finding) : Finding := { f with line := f.line + n }

/-- No validator of the table looks at the number of a line. -/
def RuleTable.LineBlind (t : RuleTable) : Prop :=
  ∀ r ∈ t.rules, ∀ v, r.validator = some v → ∀ matched file line line' content,
    v.accepts matched ⟨file, line, content⟩ = v.accepts matched ⟨file, line', content⟩

namespace Candidate

/-- A candidate `n` lines further down. -/
def below (n : Nat) (c : Candidate) : Candidate :=
  { c with context := { c.context with line := c.context.line + n } }

/-- What is found is accepted on any line. -/
theorem findings_below {t : RuleTable} (ht : t.LineBlind) {cs : List Candidate}
    (hcs : ∀ c ∈ cs, c.rule ∈ t.rules) (n : Nat) :
    findings (cs.map (below n)) = (findings cs).map (Finding.below n) := by
  have hblind : t.BlindTo fun x => { x with line := x.line + n } :=
    fun r hr v hv matched context => ht r hr v hv matched context.file _ _ context.content
  exact findings_seenAs hblind hcs fun _ => rfl

end Candidate

namespace LinePass

/-- The same pass with `n` more lines before it. -/
def movedBy (p : LinePass) (n : Nat) : LinePass := { p with offset := p.offset + n }

/-- A pass further down has its candidates further down. -/
theorem candidates_movedBy (p : LinePass) (n : Nat) (t : RuleTable) (lines : List Text) :
    (p.movedBy n).candidates t lines = (p.candidates t lines).map (Candidate.below n) := by
  show _ = (p.candidates t lines).map (Candidate.seenAs fun x => { x with line := x.line + n })
  refine candidates_seenAs (by rfl) (by rfl) (by rfl) (fun i content => ?_) t lines
  have hline : p.offset + i + 1 + n = p.offset + n + i + 1 := by omega
  simp only [movedBy, hline]

end LinePass

/-! ## Idle lines -/

/-- A line that is blank, leaves nothing open and has no directives. -/
structure Idle (mode : Mode) (line : Text) : Prop where
  blank : line.allBlank = true
  closed : (strip mode line .neutral).2 = .neutral
  quiet : Directive.readAll 0 line = []

/-- A machine that goes on over spaces ends behind them as at the end of an empty line. -/
theorem Strip.PassesSpaces.closed {machine : Text → Text → Text × State} (h : PassesSpaces machine)
    (hend : ∀ back, (machine back []).2 = .neutral) (n : Nat) : (machine [] (spaces n)).2 = .neutral := by
  have hover := h.over n [] []
  rw [List.append_nil] at hover
  rw [hover, hend]

theorem idle_spaces (mode : Mode) (n : Nat) : Idle mode (spaces n) := by
  refine ⟨?_, ?_, ?_⟩
  · simp only [allBlank, List.all_eq_true]
    intro c hc
    rw [mem_spaces hc]
    rfl
  · cases mode with
    | script => exact (scriptFrom_space .none).closed (fun _ => rfl) n
    | style => exact (styleFrom_space (by simp)).closed (fun _ => rfl) n
    | markup => exact markupFrom_space.closed (fun _ => rfl) n
  · have h := Directive.readAll_spaces_append n []
    rw [List.append_nil] at h
    exact h

/-- Which idle line comes first does not matter. -/
theorem LinePass.candidates_idle {p : LinePass} (hskips : ¬ p.Skips 0) {a b : Text} (ha : Idle p.mode a)
    (hb : Idle p.mode b) (t : RuleTable) (rest : List Text) :
    p.candidates t (a :: rest) = p.candidates t (b :: rest) := by
  have hsilenced : Suppressions.ofLines (a :: rest) = Suppressions.ofLines (b :: rest) := by
    simp only [Suppressions.ofLines, List.map_cons, LineDirectives.ofLine, ha.quiet, hb.quiet]
  have hhead : ∀ {l : Text}, Idle p.mode l →
      p.candidates t (l :: rest) = (p.cleanFrom 1 (.start p.mode) rest).flatMap
        (p.lineCandidates (p.activeRules t) (.ofLines (l :: rest))) := by
    intro l hl
    have hfirst := cleanFrom_read hskips (.start p.mode) l rest
    rw [candidates, cleanLines, hfirst, List.flatMap_cons]
    simp only [Stripper.start]
    rw [lineCandidates_of_blank hl.blank, hl.closed, List.nil_append]
  rw [hhead ha, hhead hb, hsilenced]

end FrontLint
