/-
  FrontLint.Proofs.Scan.Configured — settings act on the rules of a scan as they would act on its findings.

  A revision keeps some of the rules of a table and grades those anew (`Revision`). Nothing else of a rule
  changes, and no step of a scan looks at a severity, or at two rules at once. Proved:
  - `Revision.flatMap_rules`: what is found rule by rule is revised with the rules.
  - `LinePass.candidates_table` / `SpanPass.candidates_table`: so are the candidates of a pass, the early
    ends included, and with them those of a file (`Scanner.candidatesIn_table`).
  - `scan_configured`: a configured scan is the scan, configured; and each rule finds what it finds alone.
-/

import FrontLint.Scan.Basic

namespace FrontLint

/-! ## Revisions -/

/-- Which rules stay, and the severity of each. -/
structure Revision where
  keeps : Rule → Bool
  severity : Rule → Severity

namespace Revision

variable (v : Revision)

def rule (r : Rule) : Rule := { r with severity := v.severity r }

def rules (rs : List Rule) : List Rule := (rs.filter v.keeps).map v.rule

def table (t : RuleTable) : RuleTable := { t with rules := v.rules t.rules }

def candidates (cs : List Candidate) : List Candidate :=
  (cs.filter (v.keeps ·.rule)).map fun c => { c with rule := v.rule c.rule }

theorem candidates_append (cs ds : List Candidate) :
    v.candidates (cs ++ ds) = v.candidates cs ++ v.candidates ds := by
  simp [candidates]

theorem candidates_flatMap {α : Type} (l : List α) (f : α → List Candidate) :
    v.candidates (l.flatMap f) = l.flatMap fun a => v.candidates (f a) := by
  simp [candidates, List.filter_flatMap, List.map_flatMap]

/-- A test that does not look at severities chooses the same rules before and after. -/
theorem filter_rules {q : Rule → Bool} (hq : ∀ r, q (v.rule r) = q r) (rs : List Rule) :
    (v.rules rs).filter q = v.rules (rs.filter q) := by
  have hcomp : q ∘ v.rule = q := funext hq
  rw [rules, List.filter_map, hcomp, List.filter_filter, rules, List.filter_filter]
  simp only [Bool.and_comm]

/-- What each rule gives by itself, without a look at its severity, is revised with the rules. -/
theorem flatMap_rules {f : Rule → List Candidate} (hrule : ∀ r, ∀ c ∈ f r, c.rule = r)
    (hf : ∀ r, f (v.rule r) = (f r).map fun c => { c with rule := v.rule c.rule }) (rs : List Rule) :
    (v.rules rs).flatMap f = v.candidates (rs.flatMap f) := by
  rw [candidates_flatMap]
  induction rs with
  | nil => rfl
  | cons r rs ih =>
    rw [List.flatMap_cons, ← ih]
    by_cases hk : v.keeps r = true
    · have hall : (f r).filter (v.keeps ·.rule) = f r :=
        List.filter_eq_self.mpr fun c hc => by rw [hrule r c hc, hk]
      rw [rules, List.filter_cons_of_pos hk, List.map_cons, List.flatMap_cons, hf, candidates, hall]
      rfl
    · have hnone : (f r).filter (v.keeps ·.rule) = [] :=
        List.filter_eq_nil_iff.mpr fun c hc => by rw [hrule r c hc]; exact hk
      rw [rules, List.filter_cons_of_neg hk, candidates, hnone]
      rfl

/-- A revision that can be read off the findings acts on them as on the candidates: the validator sees no
severity, and the finding keeps all but its own. -/
theorem findings_candidates {keep : Finding → Bool} {grade : Finding → Severity}
    (hkeep : ∀ c : Candidate, keep c.finding = v.keeps c.rule)
    (hgrade : ∀ c : Candidate, grade c.finding = v.severity c.rule) (cs : List Candidate) :
    Candidate.findings (v.candidates cs) =
      ((Candidate.findings cs).filter keep).map fun f => { f with severity := grade f } := by
  have haccepted : (Candidate.accepted ∘ fun c : Candidate => { c with rule := v.rule c.rule }) =
      Candidate.accepted := rfl
  have hkeeps : keep ∘ Candidate.finding = fun c : Candidate => v.keeps c.rule := funext hkeep
  have hfinding : (Candidate.finding ∘ fun c : Candidate => { c with rule := v.rule c.rule }) =
      (fun f : Finding => { f with severity := grade f }) ∘ Candidate.finding := by
    funext c
    simp only [Function.comp_apply, hgrade]
    rfl
  calc Candidate.findings (v.candidates cs)
      = ((cs.filter (v.keeps ·.rule)).filter Candidate.accepted).map
          (Candidate.finding ∘ fun c => { c with rule := v.rule c.rule }) := by
        rw [Candidate.findings, candidates, List.filter_map, haccepted, List.map_map]
    _ = ((cs.filter Candidate.accepted).filter (keep ∘ Candidate.finding)).map
          ((fun f : Finding => { f with severity := grade f }) ∘ Candidate.finding) := by
        rw [hfinding, hkeeps, List.filter_filter, List.filter_filter]
        simp only [Bool.and_comm]
    _ = ((Candidate.findings cs).filter keep).map fun f => { f with severity := grade f } := by
        rw [Candidate.findings, List.filter_map, List.map_map]

end Revision

/-! ## The passes -/

namespace LinePass

theorem activeRules_table (p : LinePass) (v : Revision) (t : RuleTable) :
    p.activeRules (v.table t) = v.rules (p.activeRules t) := by
  rw [activeRules, RuleTable.lineRules, Revision.table, v.filter_rules (fun _ => rfl)]
  exact v.filter_rules (fun _ => rfl) _

theorem ruleCandidates_rule (p : LinePass) (v : Revision) (silenced : Suppressions) (l : CleanLine) (r : Rule) :
    p.ruleCandidates silenced l (v.rule r) =
      (p.ruleCandidates silenced l r).map fun c => { c with rule := v.rule c.rule } := by
  have hsame : silenced.silences l.index (v.rule r).id = silenced.silences l.index r.id := rfl
  unfold ruleCandidates
  rw [hsame]
  split
  · rfl
  · rw [List.map_map]
    rfl

theorem rule_of_mem_ruleCandidates {p : LinePass} {silenced : Suppressions} {l : CleanLine} {r : Rule} :
    ∀ c ∈ p.ruleCandidates silenced l r, c.rule = r := by
  intro c hc
  unfold ruleCandidates at hc
  split at hc
  · simp at hc
  · obtain ⟨m, -, rfl⟩ := List.mem_map.mp hc
    rfl

theorem lineCandidates_rules (p : LinePass) (v : Revision) (rs : List Rule) (silenced : Suppressions)
    (l : CleanLine) :
    p.lineCandidates (v.rules rs) silenced l = v.candidates (p.lineCandidates rs silenced l) := by
  unfold lineCandidates
  split
  · rfl
  · exact v.flatMap_rules (fun r => rule_of_mem_ruleCandidates) (p.ruleCandidates_rule v silenced l) rs

theorem candidates_table (p : LinePass) (v : Revision) (t : RuleTable) (lines : List Text) :
    p.candidates (v.table t) lines = v.candidates (p.candidates t lines) := by
  have hline := funext (p.lineCandidates_rules v (p.activeRules t) (.ofLines lines))
  rw [candidates, activeRules_table, hline, candidates, v.candidates_flatMap]

end LinePass

namespace SpanPass

theorem activeRules_table (p : SpanPass) (v : Revision) (t : RuleTable) :
    p.activeRules (v.table t) = v.rules (p.activeRules t) := by
  rw [activeRules, RuleTable.multilineRules, Revision.table, v.filter_rules (fun _ => rfl)]
  exact v.filter_rules (fun _ => rfl) _

theorem candidate?_rule (p : SpanPass) (v : Revision) (residue : Text) (ix : LineIndex) (silenced : Suppressions)
    (r : Rule) (m : Match) :
    p.candidate? residue ix silenced (v.rule r) m =
      (p.candidate? residue ix silenced r m).map fun c => { c with rule := v.rule c.rule } := by
  have hsafe : isSafe (v.rule r) m.text = isSafe r m.text := rfl
  have hid : (v.rule r).id = r.id := rfl
  unfold candidate?
  simp only [hsafe, hid]
  split <;> rfl

theorem rule_of_candidate? {p : SpanPass} {residue : Text} {ix : LineIndex} {silenced : Suppressions}
    {r : Rule} {m : Match} {c : Candidate} (h : p.candidate? residue ix silenced r m = some c) : c.rule = r := by
  unfold candidate? at h
  simp only at h
  split at h
  · cases h
  · cases h
    rfl

theorem candidates_table (p : SpanPass) (v : Revision) (t : RuleTable) (residue : Text) :
    p.candidates (v.table t) residue = v.candidates (p.candidates t residue) := by
  rw [candidates, activeRules_table]
  refine v.flatMap_rules (fun r c hc => ?_) (fun r => ?_) _
  · obtain ⟨m, -, hm⟩ := List.mem_filterMap.mp hc
    exact rule_of_candidate? hm
  · have hmatch := funext (p.candidate?_rule v residue (.ofText (cleaned residue)) (.ofLines residue.lines) r)
    rw [List.map_filterMap, ← hmatch]
    rfl

end SpanPass

/-! ## The scan -/

namespace Scanner

/-- A revised table gives the revised candidates of a file. -/
theorem candidatesIn_table (v : Revision) (t : RuleTable) (k : Classifier) (file : SourceFile) (c : FileClass) :
    candidatesIn ⟨v.table t, k⟩ file c = v.candidates (candidatesIn ⟨t, k⟩ file c) := by
  have hblocks : ∀ mode, blockCandidates ⟨v.table t, k⟩ file mode c =
      fun b => v.candidates (blockCandidates ⟨t, k⟩ file mode c b) :=
    fun mode => funext fun b => LinePass.candidates_table ..
  unfold candidatesIn
  cases file.kind with
  | component =>
    simp only [componentCandidates, hblocks, markupCandidates, LinePass.candidates_table,
      SpanPass.candidates_table, v.candidates_append, v.candidates_flatMap]
  | script => exact LinePass.candidates_table ..
  | style => exact LinePass.candidates_table ..

theorem candidates_table (v : Revision) (t : RuleTable) (k : Classifier) (file : SourceFile) :
    candidates ⟨v.table t, k⟩ file = v.candidates (candidates ⟨t, k⟩ file) := candidatesIn_table ..

end Scanner

/-! ## Settings -/

namespace RuleSettings

/-- The rule of a finding is not disabled and its category is on. -/
def keepsFinding (s : RuleSettings) (f : Finding) : Bool :=
  !s.disabled.contains f.ruleId && s.categoryOn f.category

/-- A finding with the severity that is set for its rule, if there is one. -/
def regradeFinding (s : RuleSettings) (f : Finding) : Finding :=
  { f with severity := (s.severity.lookup f.ruleId).getD f.severity }

/-- What settings do to the rules of a table. -/
def revision (s : RuleSettings) : Revision := ⟨s.keeps, fun r => (s.severity.lookup r.id).getD r.severity⟩

theorem regrade_eq (s : RuleSettings) (r : Rule) : s.regrade r = s.revision.rule r := by
  unfold regrade revision Revision.rule
  cases h : s.severity.lookup r.id <;> simp [h]

theorem configured_eq (t : RuleTable) (s : RuleSettings) : t.configured s = s.revision.table t := by
  rw [RuleTable.configured, funext s.regrade_eq]
  rfl

theorem configured_configured (t : RuleTable) (s : RuleSettings) :
    (t.configured s).configured s = t.configured s := by
  have hkeeps : ∀ r, s.revision.keeps (s.revision.rule r) = s.revision.keeps r := fun _ => rfl
  have hrule : s.revision.rule ∘ s.revision.rule = s.revision.rule := by
    funext r
    simp only [Function.comp_apply, Revision.rule, revision]
    cases s.severity.lookup r.id <;> rfl
  have hrules : s.revision.rules (s.revision.rules t.rules) = s.revision.rules t.rules := by
    calc s.revision.rules (s.revision.rules t.rules)
        = (s.revision.rules (t.rules.filter s.revision.keeps)).map s.revision.rule := by
          rw [← s.revision.filter_rules hkeeps]
          rfl
      _ = s.revision.rules t.rules := by
          rw [Revision.rules, List.map_map, hrule, List.filter_filter]
          simp only [Bool.and_self]
          rfl
  simp only [configured_eq, Revision.table, hrules]

end RuleSettings

namespace Scanner

/-- A scan with a configured table has the findings of the scan with the table, without those of rules
that are disabled and of categories that are off, and with the severities that are set. Configuring
twice is configuring once. And a rule finds what it finds without the other rules. -/
theorem scan_configured (t : RuleTable) (c : RuleSettings) (k : Classifier) (file : SourceFile) :
    scan ⟨t.configured c, k⟩ file = ((scan ⟨t, k⟩ file).filter c.keepsFinding).map c.regradeFinding ∧
    (t.configured c).configured c = t.configured c ∧
    ∀ id, (scan ⟨t, k⟩ file).filter (·.ruleId == id) =
      scan ⟨⟨t.rules.filter (·.id == id), t.exclusions⟩, k⟩ file := by
  refine ⟨?_, c.configured_configured t, fun id => ?_⟩
  · rw [RuleSettings.configured_eq, scan, candidates_table]
    exact Revision.findings_candidates _ (fun _ => rfl) (fun _ => rfl) _
  · -- Keep the rules of this id, with their severities.
    let v : Revision := ⟨(·.id == id), (·.severity)⟩
    have htable : v.table t = ⟨t.rules.filter (·.id == id), t.exclusions⟩ := by
      rw [Revision.table, Revision.rules]
      exact congrArg (RuleTable.mk · t.exclusions) (List.map_id _)
    have hscan : scan ⟨v.table t, k⟩ file = ((scan ⟨t, k⟩ file).filter (·.ruleId == id)).map fun f => f := by
      rw [scan, candidates_table]
      exact v.findings_candidates (fun _ => rfl) (fun _ => rfl) _
    rw [← htable, hscan, List.map_id']

end Scanner

end FrontLint
