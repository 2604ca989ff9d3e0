/-
  FrontLint.Proofs.Pass.Spans — what the pass over the whole markup finds: every match that counts, once,
  in order, and where it stands.

  Matches are found in the markup without its comments, and placed in the markup itself by the line starts
  of the other text. `Reports` says, without the pass, which matches count and what the finding of one is;
  lines are told by the bytes that they hold (`LineHolds`). Proved:
  - `Match.touches_iff`: the lines of a match go from the line of its start to that of its last byte.
  - `silencesSpan_iff`: the pass asks for the directives of these lines and of the line above them.
  - `looksUp_of_occurs`: all that it looks up is there.
  - `hits_pairwise`: it goes through the hits by rule, then by where they start.
  - `run_hits`: its findings are those of the matches that count, all of them and no others.
-/

import FrontLint.Proofs.Pass.Hits
import FrontLint.Proofs.Scan.Places
import FrontLint.Proofs.Strip.Markup

namespace FrontLint

open FrontLint.Text FrontLint.Strip

/-! ## The lines of a match -/

/-- Line `k` holds a byte of match `m`, or its place if it is empty. -/
def Match.Touches (m : Match) (lines : List Text) (k : Nat) : Prop :=
  ∃ b, m.start ≤ b ∧ (b < m.stop ∨ b = m.start) ∧ LineHolds lines k b

/-- A directive silences rule `id` for match `m`: one for its own line on a line of the match, or any on
the line above that of its start. -/
def SilencedOver (lines : List Text) (m : Match) (id : String) : Prop :=
  (∃ k, m.Touches lines k ∧ Names lines false k id) ∨
    ∃ k next, LineHolds lines (k + 1) m.start ∧ Names lines next k id

/-- The lines of a match are those from the line of its start to the line of its last byte. -/
theorem Match.touches_iff {m : Match} {lines : List Text} {first last k : Nat}
    (hfirst : LineHolds lines first m.start) (hlast : LineHolds lines last (max (m.stop - 1) m.start)) :
    m.Touches lines k ↔ first ≤ k ∧ k ≤ last := by
  constructor
  · rintro ⟨b, hle, hb, hk⟩
    exact ⟨hfirst.mono hk hle, hk.mono hlast (by omega)⟩
  · rintro ⟨h1, h2⟩
    rcases Nat.eq_or_lt_of_le h1 with rfl | hlt
    · exact ⟨m.start, Nat.le_refl _, .inr rfl, hfirst⟩
    · -- A line below the first one starts in the match.
      have hbelow := width_ended_take_le lines (show first + 1 ≤ k by omega)
      have habove := width_ended_take_le lines h2
      have hstart := hfirst.ends
      have hstop := hlast.starts
      refine ⟨width (ended (lines.take k)), by omega, .inl (by omega), ?_, Nat.le_refl _, ?_⟩
      · have := hlast.lt_length
        omega
      · have hk : k < lines.length := by
          have := hlast.lt_length
          omega
        rw [List.take_add_one, List.getElem?_eq_getElem hk, Option.toList_some, ended_append, ended_cons,
          width_append, width_append, width_cons]
        have := '\n'.utf8Size_pos
        omega

/-! ## Hits -/

/-- A match by the number of its rule in the table. -/
structure SpanHit where
  rule : Nat
  found : Match

/-- By rule, then by where the match starts. -/
def SpanHit.Before (a b : SpanHit) : Prop :=
  a.rule < b.rule ∨ a.rule = b.rule ∧ a.found.start < b.found.start

namespace SpanPass

/-- Rule number `k` of the table is `r`, a rule over lines that runs in the pass. -/
abbrev Runs (p : SpanPass) (t : RuleTable) (k : Nat) (r : Rule) : Prop := t.Runs true .markup p.fileClass k r

/-- The finding of a hit that counts: of a rule that runs, in the residue without its comments, without
the rule's companion, not silenced on its lines, and with no veto of the validator. -/
inductive Reports (p : SpanPass) (t : RuleTable) (residue : Text) (h : SpanHit) : Finding → Prop
  | intro {r : Rule} {place : LineCol} :
      p.Runs t h.rule r → h.found ∈ r.pattern.findMatches (cleaned residue) false →
      (∀ companion, r.kind = .multiline (some companion) → companion.findMatches h.found.text false = []) →
      ¬ SilencedOver residue.lines h.found r.id → place = residue.lineCol h.found.start →
      (∀ v, r.validator = some v → v.accepts h.found.text ⟨p.file, place.line, h.found.text⟩ = true) →
      Reports p t residue h
        ⟨p.file, place.line, place.column, r.id, r.severity, r.category, preview h.found.text⟩

theorem Reports.unique {p : SpanPass} {t : RuleTable} {residue : Text} {h : SpanHit} {f f' : Finding}
    (hf : p.Reports t residue h f) (hf' : p.Reports t residue h f') : f = f' := by
  obtain @⟨r, place, hr, -, -, -, hplace, -⟩ := hf
  obtain @⟨r', place', hr', -, -, -, hplace', -⟩ := hf'
  have hrule : r = r' := Option.some.inj (hr.rule_eq.symm.trans hr'.rule_eq)
  rw [hrule, hplace, hplace']

theorem activeRules_eq (p : SpanPass) (t : RuleTable) :
    p.activeRules t = (t.numbered true .markup p.fileClass).map (·.1) := by
  rw [RuleTable.numbered_map, activeRules, RuleTable.multilineRules]
  simp only [beq_true]

/-- The hits of a rule, with the candidates they give. -/
def ruleHits (p : SpanPass) (residue : Text) (r : Rule × Nat) : List (SpanHit × Candidate) :=
  (r.1.pattern.findMatches (cleaned residue) false).filterMap fun m =>
    (p.candidate? residue (.ofText (cleaned residue)) (.ofLines residue.lines) r.1 m).map (⟨r.2, m⟩, ·)

def hits (p : SpanPass) (t : RuleTable) (residue : Text) : List (SpanHit × Candidate) :=
  (t.numbered true .markup p.fileClass).flatMap (p.ruleHits residue)

theorem hits_map (p : SpanPass) (t : RuleTable) (residue : Text) :
    (p.hits t residue).map (·.2) = p.candidates t residue := by
  rw [hits, List.map_flatMap, candidates, activeRules_eq, List.flatMap_map]
  congr 1
  funext r
  rw [ruleHits, List.map_filterMap]
  congr 1
  funext m
  rw [Option.map_map]
  exact Option.map_id'

/-- The line of a match by the index of the cleaned text. -/
theorem lineHolds_of_occurs {residue : Text} {m : Match} (hm : m.Occurs 0 (cleaned residue)) :
    LineHolds residue.lines ((residue.lineCol m.start).line - 1) m.start ∧
      LineHolds residue.lines (lastLine (.ofText (cleaned residue)) m - 1) (max (m.stop - 1) m.start) := by
  obtain ⟨a, b, hclean, hstart, hstop⟩ := hm
  have hwidth := congrArg width hclean
  rw [width_cleaned, width_append, width_append] at hwidth
  refine ⟨lineHolds_newlines (by omega), ?_⟩
  rw [lastLine, ofText_cleaned, LineIndex.lineOf_ofText, Nat.add_sub_cancel]
  exact lineHolds_newlines (by omega)

theorem isSafe_eq_false {r : Rule} {m : Text} :
    isSafe r m = false ↔
      ∀ companion, r.kind = .multiline (some companion) → companion.findMatches m false = [] := by
  unfold isSafe Rule.companion?
  rcases r.kind with repeated | (_ | companion)
  · simp
  · simp
  · simp [Pattern.occursIn_eq_false]

theorem silencesSpan_iff {residue : Text} {m : Match} {id : String} (hm : m.Occurs 0 (cleaned residue)) :
    (Suppressions.ofLines residue.lines).silencesSpan ((residue.lineCol m.start).line - 1)
        (lastLine (.ofText (cleaned residue)) m - 1) id = true ↔ SilencedOver residue.lines m id := by
  obtain ⟨hfirst, hlast⟩ := lineHolds_of_occurs hm
  rw [Suppressions.silencesSpan_ofLines, SilencedOver]
  refine or_congr ?_ ?_
  · simp only [Match.touches_iff hfirst hlast, and_assoc]
  · constructor
    · rintro ⟨k, next, hk, h⟩
      exact ⟨k, next, hk ▸ hfirst, h⟩
    · rintro ⟨k, next, hk, h⟩
      exact ⟨k, next, hfirst.unique hk, h⟩

theorem candidate?_eq_some {p : SpanPass} {residue : Text} {r : Rule} {m : Match} {c : Candidate}
    (hm : m.Occurs 0 (cleaned residue)) :
    p.candidate? residue (.ofText (cleaned residue)) (.ofLines residue.lines) r m = some c ↔
      (∀ companion, r.kind = .multiline (some companion) → companion.findMatches m.text false = []) ∧
        ¬ SilencedOver residue.lines m r.id ∧ c = p.candidate residue r m := by
  have hplace : (LineIndex.ofText (cleaned residue)).lineCol residue m.start = residue.lineCol m.start := by
    rw [ofText_cleaned, LineIndex.lineCol_ofText]
  rw [candidate?, hplace, ← isSafe_eq_false, ← silencesSpan_iff hm]
  simp only [Option.ite_none_left_eq_some, Bool.or_eq_true, not_or, Bool.not_eq_true, Option.some.injEq,
    and_assoc, eq_comm (a := c)]
  rfl

theorem mem_hits {p : SpanPass} {t : RuleTable} {residue : Text} {q : SpanHit × Candidate} :
    q ∈ p.hits t residue ↔ ∃ r, p.Runs t q.1.rule r ∧
      q.1.found ∈ r.pattern.findMatches (cleaned residue) false ∧
      (∀ companion, r.kind = .multiline (some companion) → companion.findMatches q.1.found.text false = []) ∧
      ¬ SilencedOver residue.lines q.1.found r.id ∧ q.2 = p.candidate residue r q.1.found := by
  constructor
  · intro h
    obtain ⟨r, hr, h⟩ := List.mem_flatMap.mp h
    obtain ⟨m, hm, h⟩ := List.mem_filterMap.mp h
    obtain ⟨c, hc, rfl⟩ := Option.map_eq_some_iff.mp h
    exact ⟨r.1, RuleTable.mem_numbered.mp hr, hm, (candidate?_eq_some (Pattern.findMatches_occurs hm)).mp hc⟩
  · rintro ⟨r, hr, hm, h⟩
    refine List.mem_flatMap.mpr ⟨(r, q.1.rule), RuleTable.mem_numbered.mpr hr, ?_⟩
    refine List.mem_filterMap.mpr ⟨q.1.found, hm, ?_⟩
    rw [(candidate?_eq_some (Pattern.findMatches_occurs hm)).mpr h]
    rfl

/-- What is found is found by a rule that runs in the pass. -/
theorem runs_of_mem_candidates {p : SpanPass} {t : RuleTable} {residue : Text} {f : Candidate}
    (h : f ∈ p.candidates t residue) : ∃ k, p.Runs t k f.rule := by
  rw [← hits_map] at h
  obtain ⟨q, hq, rfl⟩ := List.mem_map.mp h
  obtain ⟨r, hr, -, -, -, hc⟩ := mem_hits.mp hq
  rw [hc]
  exact ⟨q.1.rule, hr⟩

theorem rule_mem_of_mem_candidates {p : SpanPass} {t : RuleTable} {residue : Text} {c : Candidate}
    (h : c ∈ p.candidates t residue) : c.rule ∈ t.rules := by
  obtain ⟨k, hk⟩ := runs_of_mem_candidates h
  exact hk.mem

theorem rule_eq_of_mem_ruleHits {p : SpanPass} {residue : Text} {r : Rule × Nat} {q : SpanHit × Candidate}
    (h : q ∈ p.ruleHits residue r) : q.1.rule = r.2 := by
  obtain ⟨m, -, h⟩ := List.mem_filterMap.mp h
  obtain ⟨c, -, rfl⟩ := Option.map_eq_some_iff.mp h
  rfl

theorem ruleHits_pairwise (p : SpanPass) (residue : Text) (r : Rule × Nat) :
    (p.ruleHits residue r).Pairwise fun a b => a.1.Before b.1 := by
  refine List.Pairwise.filterMap _ ?_ (r.1.pattern.findMatches_starts (cleaned residue) false)
  intro m m' hlt a ha b hb
  obtain ⟨c, -, rfl⟩ := Option.map_eq_some_iff.mp ha
  obtain ⟨c', -, rfl⟩ := Option.map_eq_some_iff.mp hb
  exact .inr ⟨rfl, hlt⟩

/-- A pass goes through its hits in order. -/
theorem hits_pairwise (p : SpanPass) (t : RuleTable) (residue : Text) :
    (p.hits t residue).Pairwise fun a b => a.1.Before b.1 := by
  refine List.pairwise_flatMap.mpr
    ⟨fun r _ => p.ruleHits_pairwise residue r, (t.numbered_pairwise _ _ _).imp ?_⟩
  intro r r' hr a ha b hb
  rw [SpanHit.Before, rule_eq_of_mem_ruleHits ha, rule_eq_of_mem_ruleHits hb]
  exact .inl hr

/-- The hits whose candidates the validator accepts are those that count. -/
theorem reports_iff {p : SpanPass} {t : RuleTable} {residue : Text} {h : SpanHit} {f : Finding} :
    p.Reports t residue h f ↔ ∃ c, (h, c) ∈ p.hits t residue ∧ c.accepted = true ∧ c.finding = f := by
  constructor
  · rintro @⟨r, place, hr, hm, hsafe, hs, rfl, hv⟩
    exact ⟨p.candidate residue r h.found, mem_hits.mpr ⟨r, hr, hm, hsafe, hs, rfl⟩,
      Rule.accepts_iff.mpr hv, rfl⟩
  · rintro ⟨c, hc, hacc, rfl⟩
    obtain ⟨r, hr, hm, hsafe, hs, hcand⟩ := mem_hits.mp hc
    simp only at hcand
    subst hcand
    exact .intro hr hm hsafe hs rfl (Rule.accepts_iff.mp hacc)

/-! ## What is looked up -/

/-- What a pass looks up for a match is there: the line of its start is one of the index, which starts at
a character of the residue no further on than the match, and its last line is a line of the residue. -/
structure LooksUp (residue : Text) (ix : LineIndex) (m : Match) : Prop where
  line_pos : 1 ≤ (ix.lineCol residue m.start).line
  line_le : (ix.lineCol residue m.start).line ≤ ix.lineCount
  start_eq : ∃ i ≤ residue.charsBefore m.start,
    ix.starts[(ix.lineCol residue m.start).line - 1]? = some (residue.byteOffset i)
  line_le_last : (ix.lineCol residue m.start).line ≤ lastLine ix m
  last_le : lastLine ix m ≤ residue.lines.length

theorem looksUp_of_occurs {residue : Text} {m : Match} (hm : m.Occurs 0 (cleaned residue)) :
    LooksUp residue (.ofText (cleaned residue)) m := by
  obtain ⟨hfirst, hlast⟩ := lineHolds_of_occurs hm
  have hle := hfirst.mono hlast (Nat.le_max_right _ _)
  have hlast_pos : 1 ≤ lastLine (.ofText (cleaned residue)) m := by
    rw [lastLine, ofText_cleaned, LineIndex.lineOf_ofText]
    exact Nat.le_add_left 1 _
  have hpos : 1 ≤ (residue.lineCol m.start).line := Nat.le_add_left 1 _
  have hplace : (LineIndex.ofText (cleaned residue)).lineCol residue m.start = residue.lineCol m.start := by
    rw [ofText_cleaned, LineIndex.lineCol_ofText]
  have hcount : (LineIndex.ofText (cleaned residue)).lineCount = residue.lines.length := by
    rw [ofText_cleaned, LineIndex.lineCount, LineIndex.size_starts_ofText, length_lines]
  have hfirst_lt := hfirst.lt_length
  have hlast_lt := hlast.lt_length
  refine ⟨?_, ?_, ?_, ?_, ?_⟩
  · rw [hplace]
    exact hpos
  · rw [hplace, hcount]
    omega
  · obtain ⟨a, ha, hwhole, hnl⟩ := exists_eq_append_lastLine (residue.take (residue.charsBefore m.start))
    have hsplit : residue = a ++ (Text.lastLine (residue.take (residue.charsBefore m.start)) ++
        residue.drop (residue.charsBefore m.start)) := by
      rw [← List.append_assoc, ← ha, List.take_append_drop]
    refine ⟨a.length, ?_, ?_⟩
    · have hlen := congrArg List.length ha
      rw [List.length_take, List.length_append] at hlen
      omega
    · have hoffset : residue.byteOffset a.length = width a := by
        rw [byteOffset, hsplit, List.take_left]
      rw [hplace, ofText_cleaned, hoffset, ← LineIndex.starts_ofText_getElem? hsplit hwhole, hnl]
      rfl
  · rw [hplace]
    omega
  · omega

/-! ## The findings -/

/-- The findings of a pass are those of the matches that count, by rule, then by where the match starts:
one for each match, and no others. For no match is anything looked up that is not there. -/
theorem run_hits (p : SpanPass) (t : RuleTable) (residue : Text) :
    (∃ hs : List SpanHit, hs.Pairwise SpanHit.Before ∧ (∀ h, h ∈ hs ↔ ∃ f, p.Reports t residue h f) ∧
      (∀ h f f', p.Reports t residue h f → p.Reports t residue h f' → f = f') ∧
      List.Forall₂ (p.Reports t residue) hs (p.run t residue)) ∧
    ∀ (q : Pattern), ∀ m ∈ q.findMatches (cleaned residue) false,
      LooksUp residue (.ofText (cleaned residue)) m := by
  obtain ⟨hs, horder, hmem, hfound⟩ := Candidate.exists_hits (p.hits_pairwise t residue) fun h f => reports_iff
  rw [hits_map] at hfound
  exact ⟨⟨hs, horder, hmem, fun h f f' => Reports.unique, hfound⟩,
    fun q m hm => looksUp_of_occurs (Pattern.findMatches_occurs hm)⟩

end SpanPass

end FrontLint
