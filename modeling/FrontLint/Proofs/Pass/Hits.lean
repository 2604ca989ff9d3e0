/-
  FrontLint.Proofs.Pass.Hits — what a pass over lines finds: every match that counts, once, in order.

  A hit is a line, a rule of the table and a match, each by its number. `Reports` says, without the
  pass, which hits count and what the finding of one is. Proved:
  - `columnOf_columnAt`: the column of an offset is that of the character that holds it.
  - `RuleTable.mem_numbered`: which rules run, by their numbers, for this pass and the one over lines.
  - `Candidate.exists_hits`: for both, where candidates come from hits, the findings come from those accepted.
  - `hits_pairwise`: the pass goes through the hits by line, then by rule, then by where they start.
  - `run_reports`: its findings are those of the hits that count, all of them and no others.
-/

import FrontLint.Proofs.Directive.Silence
import FrontLint.Proofs.Pass.Cleaning
import FrontLint.Proofs.Pattern.Occurrence
import Mathlib.Data.List.Forall2

namespace FrontLint

open FrontLint.Text

/-! ## Columns -/

/-- Column `column` is that of the character of a line that holds byte `offset`, or the one behind the
last character. -/
structure ColumnOf (raw : Text) (offset column : Nat) : Prop where
  pos : 1 ≤ column
  le : column ≤ raw.length + 1
  starts : width (raw.take (column - 1)) ≤ offset
  ends : column ≤ raw.length → offset < width (raw.take column)

theorem columnOf_columnAt (raw : Text) (offset : Nat) : ColumnOf raw offset (raw.columnAt offset) := by
  have hle := charsBefore_le_length raw offset
  refine ⟨Nat.le_add_left 1 _, Nat.succ_le_succ hle, byteOffset_charsBefore_le raw offset, fun hlt => ?_⟩
  simp only [columnAt] at hlt ⊢
  have hsplit : raw = raw.take (raw.charsBefore offset) ++ raw[raw.charsBefore offset] ::
      raw.drop (raw.charsBefore offset + 1) := by
    rw [← List.drop_eq_getElem_cons hlt, List.take_append_drop]
  have h := lt_width_of_charsBefore hsplit (by rw [List.length_take, Nat.min_eq_left hle])
  rw [List.take_add_one, List.getElem?_eq_getElem hlt, Option.toList_some, width_append, width_cons, width_nil]
  omega

theorem ColumnOf.unique {raw : Text} {offset column column' : Nat} (h : ColumnOf raw offset column)
    (h' : ColumnOf raw offset column') : column = column' := by
  have not_lt : ∀ {a b : Nat}, ColumnOf raw offset a → ColumnOf raw offset b → ¬ a < b := by
    intro a b ha hb hlt
    have hb' := hb.le
    have h1 := ha.ends (by omega)
    have h2 := hb.starts
    have h3 := width_take_le raw (show a ≤ b - 1 by omega)
    omega
  have h1 := not_lt h h'
  have h2 := not_lt h' h
  omega

/-! ## Rules by number -/

namespace RuleTable

theorem isActive_iff {t : RuleTable} {mode : Mode} {c : FileClass} {r : Rule} :
    t.isActive mode c r = true ↔
      r.scope.applies mode c = true ∧ ∀ tag ∈ t.exclusions.tags r.id, c.has tag = false := by
  simp [isActive, Exclusions.excludes]

/-- Rule number `k` of the table is `r`, which is for single lines or over lines, as `multiline` says, and
runs in `mode` in files of class `c`. -/
structure Runs (t : RuleTable) (multiline : Bool) (mode : Mode) (c : FileClass) (k : Nat) (r : Rule) : Prop where
  rule_eq : t.rules[k]? = some r
  isMultiline_eq : r.isMultiline = multiline
  in_scope : r.scope.applies mode c = true
  not_excluded : ∀ tag ∈ t.exclusions.tags r.id, c.has tag = false

variable {t : RuleTable} {multiline : Bool} {mode : Mode} {c : FileClass}

theorem Runs.mem {k : Nat} {r : Rule} (h : t.Runs multiline mode c k r) : r ∈ t.rules :=
  List.mem_of_getElem? h.rule_eq

theorem Runs.isActive {k : Nat} {r : Rule} (h : t.Runs multiline mode c k r) : t.isActive mode c r = true :=
  isActive_iff.mpr ⟨h.in_scope, h.not_excluded⟩

/-- The rules that run, with their numbers. -/
def numbered (t : RuleTable) (multiline : Bool) (mode : Mode) (c : FileClass) : List (Rule × Nat) :=
  t.rules.zipIdx.filter fun r => r.1.isMultiline == multiline && t.isActive mode c r.1

theorem numbered_map (t : RuleTable) (multiline : Bool) (mode : Mode) (c : FileClass) :
    (t.numbered multiline mode c).map (·.1) =
      (t.rules.filter (·.isMultiline == multiline)).filter (t.isActive mode c) := by
  have hrules : t.rules = t.rules.zipIdx.map (·.1) := by rw [List.zipIdx_map_fst]
  rw [List.filter_filter, hrules, List.filter_map, numbered]
  simp only [Function.comp_def, Bool.and_comm]

theorem mem_numbered {r : Rule × Nat} : r ∈ t.numbered multiline mode c ↔ t.Runs multiline mode c r.2 r.1 := by
  rw [numbered, List.mem_filter, List.mem_zipIdx_iff_getElem?, Bool.and_eq_true, beq_iff_eq, isActive_iff]
  constructor
  · intro h
    exact ⟨h.1, h.2.1, h.2.2.1, h.2.2.2⟩
  · intro h
    exact ⟨h.rule_eq, h.isMultiline_eq, h.in_scope, h.not_excluded⟩

theorem numbered_pairwise (t : RuleTable) (multiline : Bool) (mode : Mode) (c : FileClass) :
    (t.numbered multiline mode c).Pairwise fun a b => a.2 < b.2 := by
  refine List.Pairwise.filter _ ?_
  rw [← List.pairwise_map, List.zipIdx_map_snd]
  exact List.pairwise_lt_range'

end RuleTable

/-! ## From candidates to findings -/

theorem Rule.accepts_iff {r : Rule} {m : Text} {context : MatchContext} :
    r.accepts m context = true ↔ ∀ v, r.validator = some v → v.accepts m context = true := by
  unfold Rule.accepts
  cases r.validator <;> simp

/-- Nothing is vetoed without a validator. -/
theorem Candidate.findings_of_unvalidated {cs : List Candidate} (h : ∀ c ∈ cs, c.rule.validator = none) :
    findings cs = cs.map finding := by
  have hall : cs.filter accepted = cs := by
    refine List.filter_eq_self.mpr fun c hc => ?_
    simp [accepted, Rule.accepts, h c hc]
  rw [findings, hall]

/-- Nothing is found by a rule that does not run. -/
theorem Candidate.findings_of_inactive {cs : List Candidate} {r : Rule} {ex : Exclusions} {multiline : Bool}
    {mode : Mode} {c : FileClass} (hruns : ∀ f ∈ cs, ∃ k, RuleTable.Runs ⟨[r], ex⟩ multiline mode c k f.rule)
    (h : ¬ RuleTable.isActive ⟨[r], ex⟩ mode c r = true) : findings cs = [] := by
  have hnone : cs = [] := by
    refine List.eq_nil_iff_forall_not_mem.mpr fun f hf => ?_
    obtain ⟨k, hk⟩ := hruns f hf
    have hrule : f.rule = r := List.mem_singleton.mp hk.mem
    exact h (hrule ▸ hk.isActive)
  rw [hnone]
  rfl

/-- Where candidates come from hits in some order, the findings are those of the hits that are accepted,
in this order. -/
theorem Candidate.exists_hits {α : Type} {before : α → α → Prop} {Reports : α → Finding → Prop}
    {hits : List (α × Candidate)} (horder : hits.Pairwise fun a b => before a.1 b.1)
    (hreports : ∀ h f, Reports h f ↔ ∃ c, (h, c) ∈ hits ∧ c.accepted = true ∧ c.finding = f) :
    ∃ hs : List α, hs.Pairwise before ∧ (∀ h, h ∈ hs ↔ ∃ f, Reports h f) ∧
      List.Forall₂ Reports hs (Candidate.findings (hits.map (·.2))) := by
  have hfindings : Candidate.findings (hits.map (·.2)) = (hits.filter (·.2.accepted)).map (·.2.finding) := by
    rw [Candidate.findings, List.filter_map, List.map_map]
    rfl
  refine ⟨(hits.filter (·.2.accepted)).map (·.1), List.pairwise_map.mpr (horder.filter _), fun h => ?_, ?_⟩
  · simp only [hreports, List.mem_map, List.mem_filter]
    constructor
    · rintro ⟨q, ⟨hq, hacc⟩, rfl⟩
      exact ⟨_, q.2, hq, hacc, rfl⟩
    · rintro ⟨f, c, hc, hacc, -⟩
      exact ⟨(h, c), ⟨hc, hacc⟩, rfl⟩
  · rw [hfindings, List.forall₂_map_left_iff, List.forall₂_map_right_iff, List.forall₂_same]
    intro q hq
    obtain ⟨hq, hacc⟩ := List.mem_filter.mp hq
    exact (hreports _ _).mpr ⟨q.2, hq, hacc, rfl⟩

/-! ## Hits -/

/-- A match: the number of its line in the pass, the number of its rule in the table, and itself. -/
structure Hit where
  line : Nat
  rule : Nat
  found : Match

/-- By line, then by rule, then by where the match starts. -/
def Hit.Before (a b : Hit) : Prop :=
  a.line < b.line ∨ a.line = b.line ∧ (a.rule < b.rule ∨ a.rule = b.rule ∧ a.found.start < b.found.start)

namespace LinePass

/-- Rule number `k` of the table is `r`, a line rule that runs in the pass. -/
abbrev Runs (p : LinePass) (t : RuleTable) (k : Nat) (r : Rule) : Prop := t.Runs false p.mode p.fileClass k r

/-- The finding of a hit that counts: of a rule that runs and is not silenced on the line, which is not
blank once cleaned, in the cleaned line, and with no veto of the validator. -/
inductive Reports (p : LinePass) (t : RuleTable) (lines : List Text) (h : Hit) : Finding → Prop
  | intro {raw cleaned : Text} {r : Rule} {column : Nat} :
      p.Cleans lines ⟨h.line, raw, cleaned⟩ → (∃ c ∈ cleaned, isBlank c = false) →
      p.Runs t h.rule r → ¬ Silenced lines h.line r.id →
      h.found ∈ r.pattern.findMatches cleaned (!r.repeats) →
      (∀ v, r.validator = some v →
        v.accepts h.found.text ⟨p.file, p.offset + h.line + 1, cleaned⟩ = true) →
      ColumnOf raw h.found.start column →
      Reports p t lines h
        ⟨p.file, p.offset + h.line + 1, column, r.id, r.severity, r.category, h.found.text⟩

/-- A hit has one finding. -/
theorem Reports.unique {p : LinePass} {t : RuleTable} {lines : List Text} {h : Hit} {f f' : Finding}
    (hf : p.Reports t lines h f) (hf' : p.Reports t lines h f') : f = f' := by
  obtain @⟨raw, cleaned, r, column, hl, -, hr, -, -, -, hc⟩ := hf
  obtain @⟨raw', cleaned', r', column', hl', -, hr', -, -, -, hc'⟩ := hf'
  have hrule : r = r' := Option.some.inj (hr.rule_eq.symm.trans hr'.rule_eq)
  have hraw : raw = raw' := congrArg CleanLine.raw (hl.unique hl' rfl)
  subst hrule hraw
  rw [hc.unique hc']

/-! ## The hits of a pass -/

theorem activeRules_eq (p : LinePass) (t : RuleTable) :
    p.activeRules t = (t.numbered false p.mode p.fileClass).map (·.1) := by
  rw [RuleTable.numbered_map, activeRules, RuleTable.lineRules]
  simp only [beq_false]

/-- The hits of a rule on a line, with the candidates they give. -/
def ruleHits (p : LinePass) (silenced : Suppressions) (l : CleanLine) (r : Rule × Nat) :
    List (Hit × Candidate) :=
  if silenced.silences l.index r.1.id then []
  else (r.1.pattern.findMatches l.cleaned (!r.1.repeats)).map fun m =>
    (⟨l.index, r.2, m⟩, p.candidate l r.1 m)

def lineHits (p : LinePass) (rules : List (Rule × Nat)) (silenced : Suppressions) (l : CleanLine) :
    List (Hit × Candidate) :=
  if l.cleaned.allBlank then [] else rules.flatMap (p.ruleHits silenced l)

def hits (p : LinePass) (t : RuleTable) (lines : List Text) : List (Hit × Candidate) :=
  (p.cleanLines lines).flatMap (p.lineHits (t.numbered false p.mode p.fileClass) (.ofLines lines))

theorem ruleHits_map (p : LinePass) (silenced : Suppressions) (l : CleanLine) (r : Rule × Nat) :
    (p.ruleHits silenced l r).map (·.2) = p.ruleCandidates silenced l r.1 := by
  unfold ruleHits ruleCandidates
  split
  · rfl
  · rw [List.map_map]
    rfl

theorem lineHits_map (p : LinePass) (rules : List (Rule × Nat)) (silenced : Suppressions) (l : CleanLine) :
    (p.lineHits rules silenced l).map (·.2) = p.lineCandidates (rules.map (·.1)) silenced l := by
  unfold lineHits lineCandidates
  split
  · rfl
  · rw [List.map_flatMap, List.flatMap_map]
    simp only [ruleHits_map]

theorem hits_map (p : LinePass) (t : RuleTable) (lines : List Text) :
    (p.hits t lines).map (·.2) = p.candidates t lines := by
  rw [hits, List.map_flatMap, candidates, activeRules_eq]
  simp only [lineHits_map]

theorem mem_hits {p : LinePass} {t : RuleTable} {lines : List Text} {q : Hit × Candidate} :
    q ∈ p.hits t lines ↔ ∃ l r, p.Cleans lines l ∧ (∃ c ∈ l.cleaned, isBlank c = false) ∧
      p.Runs t q.1.rule r ∧ ¬ Silenced lines l.index r.id ∧
      q.1.found ∈ r.pattern.findMatches l.cleaned (!r.repeats) ∧ q.1.line = l.index ∧
      q.2 = p.candidate l r q.1.found := by
  have hblank : ∀ t : Text, t.allBlank = false ↔ ∃ c ∈ t, isBlank c = false := by
    intro t
    simp [allBlank]
  constructor
  · intro h
    obtain ⟨l, hl, h⟩ := List.mem_flatMap.mp h
    unfold lineHits at h
    split at h
    · simp at h
    rename_i hb
    obtain ⟨r, hr, h⟩ := List.mem_flatMap.mp h
    unfold ruleHits at h
    split at h
    · simp at h
    rename_i hs
    obtain ⟨m, hm, rfl⟩ := List.mem_map.mp h
    refine ⟨l, r.1, mem_cleanLines.mp hl, (hblank _).mp (by simpa using hb), RuleTable.mem_numbered.mp hr, ?_, hm,
      rfl, rfl⟩
    rwa [← Suppressions.silences_ofLines]
  · rintro ⟨l, r, hl, hb, hr, hs, hm, hline, hc⟩
    refine List.mem_flatMap.mpr ⟨l, mem_cleanLines.mpr hl, ?_⟩
    rw [lineHits, (hblank _).mpr hb, if_neg (by simp)]
    refine List.mem_flatMap.mpr ⟨(r, q.1.rule), RuleTable.mem_numbered.mpr hr, ?_⟩
    rw [ruleHits, if_neg (by rwa [Suppressions.silences_ofLines])]
    refine List.mem_map.mpr ⟨q.1.found, hm, ?_⟩
    obtain ⟨⟨line, rule, found⟩, c⟩ := q
    simp only at hline hc ⊢
    rw [hline, hc]

/-- What is found is found by a rule that runs in the pass. -/
theorem runs_of_mem_candidates {p : LinePass} {t : RuleTable} {lines : List Text} {f : Candidate}
    (h : f ∈ p.candidates t lines) : ∃ k, p.Runs t k f.rule := by
  rw [← hits_map] at h
  obtain ⟨q, hq, rfl⟩ := List.mem_map.mp h
  obtain ⟨l, r, -, -, hr, -, -, -, hc⟩ := mem_hits.mp hq
  rw [hc]
  exact ⟨q.1.rule, hr⟩

theorem rule_mem_of_mem_candidates {p : LinePass} {t : RuleTable} {lines : List Text} {c : Candidate}
    (h : c ∈ p.candidates t lines) : c.rule ∈ t.rules := by
  obtain ⟨k, hk⟩ := runs_of_mem_candidates h
  exact hk.mem

theorem rule_eq_of_mem_ruleHits {p : LinePass} {silenced : Suppressions} {l : CleanLine} {r : Rule × Nat}
    {q : Hit × Candidate} (h : q ∈ p.ruleHits silenced l r) : q.1.line = l.index ∧ q.1.rule = r.2 := by
  unfold ruleHits at h
  split at h
  · simp at h
  obtain ⟨m, -, rfl⟩ := List.mem_map.mp h
  exact ⟨rfl, rfl⟩

theorem line_eq_of_mem_lineHits {p : LinePass} {rules : List (Rule × Nat)} {silenced : Suppressions}
    {l : CleanLine} {q : Hit × Candidate} (h : q ∈ p.lineHits rules silenced l) : q.1.line = l.index := by
  unfold lineHits at h
  split at h
  · simp at h
  obtain ⟨r, -, h⟩ := List.mem_flatMap.mp h
  exact (rule_eq_of_mem_ruleHits h).1

theorem ruleHits_pairwise (p : LinePass) (silenced : Suppressions) (l : CleanLine) (r : Rule × Nat) :
    (p.ruleHits silenced l r).Pairwise fun a b => a.1.Before b.1 := by
  unfold ruleHits
  split
  · exact .nil
  · rw [List.pairwise_map]
    exact (r.1.pattern.findMatches_starts _ _).imp fun h => .inr ⟨rfl, .inr ⟨rfl, h⟩⟩

theorem lineHits_pairwise {p : LinePass} {rules : List (Rule × Nat)} (silenced : Suppressions)
    (l : CleanLine) (hrules : rules.Pairwise fun a b => a.2 < b.2) :
    (p.lineHits rules silenced l).Pairwise fun a b => a.1.Before b.1 := by
  unfold lineHits
  split
  · exact .nil
  · refine List.pairwise_flatMap.mpr ⟨fun r _ => p.ruleHits_pairwise silenced l r, hrules.imp ?_⟩
    intro r r' hr a ha b hb
    obtain ⟨h1, h2⟩ := rule_eq_of_mem_ruleHits ha
    obtain ⟨h3, h4⟩ := rule_eq_of_mem_ruleHits hb
    exact .inr ⟨h1.trans h3.symm, .inl (by omega)⟩

/-- A pass goes through its hits in order. -/
theorem hits_pairwise (p : LinePass) (t : RuleTable) (lines : List Text) :
    (p.hits t lines).Pairwise fun a b => a.1.Before b.1 := by
  refine List.pairwise_flatMap.mpr
    ⟨fun l _ => lineHits_pairwise _ l (t.numbered_pairwise _ _ _), (p.cleanLines_pairwise lines).imp ?_⟩
  intro l l' hl a ha b hb
  have h1 := line_eq_of_mem_lineHits ha
  have h2 := line_eq_of_mem_lineHits hb
  exact .inl (by omega)

/-- The hits whose candidates the validator accepts are those that count. -/
theorem reports_iff {p : LinePass} {t : RuleTable} {lines : List Text} {h : Hit} {f : Finding} :
    p.Reports t lines h f ↔
      ∃ c, (h, c) ∈ p.hits t lines ∧ c.accepted = true ∧ c.finding = f := by
  constructor
  · rintro @⟨raw, cleaned, r, column, hl, hb, hr, hs, hm, hv, hc⟩
    refine ⟨p.candidate ⟨h.line, raw, cleaned⟩ r h.found, mem_hits.mpr ⟨_, r, hl, hb, hr, hs, hm, rfl, rfl⟩,
      Rule.accepts_iff.mpr hv, ?_⟩
    rw [hc.unique (columnOf_columnAt raw h.found.start)]
    rfl
  · rintro ⟨c, hc, hacc, rfl⟩
    obtain ⟨⟨i, raw, cleaned⟩, r, hl, hb, hr, hs, hm, hline, hcand⟩ := mem_hits.mp hc
    simp only at hline hcand
    subst hline hcand
    exact .intro hl hb hr hs hm (Rule.accepts_iff.mp hacc) (columnOf_columnAt raw h.found.start)

/-- What a pass finds is the finding of a hit that counts. -/
theorem mem_run {p : LinePass} {t : RuleTable} {lines : List Text} {f : Finding} :
    f ∈ p.run t lines ↔ ∃ h, p.Reports t lines h f := by
  simp only [run, Candidate.findings, ← hits_map, reports_iff, List.mem_map, List.mem_filter]
  constructor
  · rintro ⟨_, ⟨⟨q, hq, rfl⟩, hacc⟩, rfl⟩
    exact ⟨q.1, q.2, hq, hacc, rfl⟩
  · rintro ⟨h, c, hc, hacc, rfl⟩
    exact ⟨c, ⟨⟨(h, c), hc, rfl⟩, hacc⟩, rfl⟩

/-- The findings of a pass are those of the hits that count, by line, then by rule, then by where the
match starts: one for each hit, and no others. -/
theorem run_reports (p : LinePass) (t : RuleTable) (lines : List Text) :
    ∃ hs : List Hit, hs.Pairwise Hit.Before ∧ (∀ h, h ∈ hs ↔ ∃ f, p.Reports t lines h f) ∧
      (∀ h f f', p.Reports t lines h f → p.Reports t lines h f' → f = f') ∧
      List.Forall₂ (p.Reports t lines) hs (p.run t lines) := by
  obtain ⟨hs, horder, hmem, hfound⟩ := Candidate.exists_hits (p.hits_pairwise t lines) fun h f => reports_iff
  rw [hits_map] at hfound
  exact ⟨hs, horder, hmem, fun h f f' => Reports.unique, hfound⟩

end LinePass

end FrontLint
