/-
  FrontLint.Proofs.Scan.Suppression — directives work within their own part of a file.

  A script or a style sheet is read as a whole, a component in parts: its blocks, and the markup that
  is left. Each part is read with the directives that stand in it. Proved:
  - `LinePass.not_silenced` / `SpanPass.not_silenced`: a pass finds nothing on a line that its own text
    silences.
  - `silenced_iff`: a line of the file is silenced if it is so in one of the parts.
  - `scan_silenced`: so a finding on a silenced line comes from a part that the directive is not in; in
    scripts and style sheets there is none.
  - `directive_beside_block`: in components there is.
-/

import FrontLint.Proofs.Directive.Parts
import FrontLint.Proofs.Pass.Hits
import FrontLint.Proofs.Scan.Places
import FrontLint.Scan.Basic

namespace FrontLint

open FrontLint.Text

/-! ## The passes -/

theorem LinePass.not_silenced {p : LinePass} {t : RuleTable} {lines : List Text} {c : Candidate}
    (h : c ∈ p.candidates t lines) :
    ∃ i, c.context.line = p.offset + i + 1 ∧ ¬ Silenced lines i c.rule.id := by
  rw [← hits_map] at h
  obtain ⟨q, hq, rfl⟩ := List.mem_map.mp h
  obtain ⟨l, r, -, -, -, hquiet, -, -, hc⟩ := mem_hits.mp hq
  rw [hc]
  exact ⟨l.index, rfl, hquiet⟩

/-- A match starts on the line of its last character, or above it. -/
theorem SpanPass.line_le_lastLine (t : Text) (m : Match) :
    ((LineIndex.ofText t).lineCol t m.start).line ≤ lastLine (LineIndex.ofText t) m := by
  rw [lastLine, LineIndex.lineOf_ofText, LineIndex.lineCol_ofText, lineCol_eq_place]
  exact Nat.succ_le_succ (newlines_take_le t (charsBefore_mono t (Nat.le_max_right _ _)))

theorem SpanPass.not_silenced {p : SpanPass} {t : RuleTable} {residue : Text} {c : Candidate}
    (h : c ∈ p.candidates t residue) :
    ∃ i, c.context.line = i + 1 ∧ ¬ Silenced residue.lines i c.rule.id := by
  obtain ⟨r, -, m, -, hquiet, rfl⟩ := exists_of_mem_candidates h
  have hle := line_le_lastLine residue m
  rw [LineIndex.lineCol_ofText] at hle
  rw [lineCol_eq_place] at hquiet hle
  simp only [Nat.add_sub_cancel] at hquiet hle
  refine ⟨(residue.place (residue.charsBefore m.start)).line, rfl, fun hs => ?_⟩
  rw [← Bool.not_eq_true] at hquiet
  apply hquiet
  rcases hs with hs | ⟨k, hk, hs⟩
  · exact Suppressions.silencesSpan_ofLines_onLine (by omega) hs
  · rw [hk]
    exact Suppressions.silencesSpan_ofLines_above hs

/-! ## The parts of a file -/

/-- What is read on its own. -/
inductive Part where
  | whole (mode : Mode)
  | block (mode : Mode) (b : Block)
  | markup

namespace Part

def text (file : SourceFile) : Part → Text
  | .whole _ => file.text
  | .block _ b => b.text
  | .markup => (Component.split file.text).residue

/-- The line of the file on which a part starts, from 0. -/
def line : Part → Nat
  | .whole _ => 0
  | .block _ b => b.startLine
  | .markup => 0

/-- The directives of a part silence rule `id` on line `k` of the file. -/
def Silences (file : SourceFile) (p : Part) (k : Nat) (id : String) : Prop :=
  ∃ i, k = p.line + i ∧ Silenced (p.text file).lines i id

end Part

def SourceFile.parts (file : SourceFile) : List Part :=
  match file.kind with
  | .component =>
    (Component.split file.text).scripts.map (.block .script) ++
      (Component.split file.text).styles.map (.block .style) ++ [.markup]
  | .script => [.whole .script]
  | .style => [.whole .style]

namespace Scanner

def partCandidates (s : Scanner) (file : SourceFile) (c : FileClass) : Part → List Candidate
  | .whole mode => s.wholeCandidates file mode c
  | .block mode b => s.blockCandidates file mode c b
  | .markup => s.residueCandidates file c

/-- What a scan finds in a part. -/
def partFindings (s : Scanner) (file : SourceFile) (p : Part) : List Finding :=
  Candidate.findings (s.partCandidates file (s.classifier.classify file.path.toList file.kind) p)

theorem candidatesIn_eq_parts (s : Scanner) (file : SourceFile) (c : FileClass) :
    s.candidatesIn file c = file.parts.flatMap (s.partCandidates file c) := by
  unfold candidatesIn SourceFile.parts
  cases file.kind <;> simp [componentCandidates, partCandidates, residueCandidates, List.flatMap_map]

theorem scan_eq_parts (s : Scanner) (file : SourceFile) :
    s.scan file = file.parts.flatMap (s.partFindings file) := by
  rw [scan, candidates, candidatesAs, candidatesIn_eq_parts, Candidate.findings, List.filter_flatMap,
    List.map_flatMap]
  rfl

/-- Nothing is found in a part on a line that its own directives silence. -/
theorem not_silences_of_mem_partFindings {s : Scanner} {file : SourceFile} {p : Part} {f : Finding}
    (h : f ∈ s.partFindings file p) {k : Nat} (hk : f.line = k + 1) : ¬ p.Silences file k f.ruleId := by
  obtain ⟨c, hc, rfl⟩ := List.mem_map.mp h
  obtain ⟨hc, -⟩ := List.mem_filter.mp hc
  have hquiet : ∃ i, c.context.line = p.line + i + 1 ∧ ¬ Silenced (p.text file).lines i c.rule.id := by
    cases p with
    | whole mode => exact LinePass.not_silenced hc
    | block mode b => exact LinePass.not_silenced hc
    | markup =>
      rcases List.mem_append.mp hc with hc | hc
      · exact LinePass.not_silenced hc
      · obtain ⟨i, hi, hquiet⟩ := SpanPass.not_silenced hc
        exact ⟨i, by rw [hi, Part.line, Nat.zero_add], hquiet⟩
  obtain ⟨i, hi, hquiet⟩ := hquiet
  rintro ⟨j, hj, hs⟩
  have hij : j = i := by
    have : c.context.line = k + 1 := hk
    omega
  rw [hij] at hs
  exact hquiet hs

end Scanner

namespace SourceFile

theorem names_iff_parts (file : SourceFile) (next : Bool) (k : Nat) (id : String) :
    Names file.text.lines next k id ↔
      ∃ p ∈ file.parts, ∃ j, k = p.line + j ∧ Names (p.text file).lines next j id := by
  have hwhole : ∀ mode, Names file.text.lines next k id ↔
      ∃ p ∈ [Part.whole mode], ∃ j, k = p.line + j ∧ Names (p.text file).lines next j id := by
    intro mode
    simp [Part.line, Part.text]
  unfold parts
  cases file.kind with
  | component =>
    rw [Component.names_iff]
    simp only [List.mem_append, List.mem_map, List.mem_singleton, or_and_right, exists_or,
      exists_exists_and_eq_and, exists_eq_left, Component.blocks, Part.line, Part.text, Nat.zero_add]
    grind
  | script => exact hwhole .script
  | style => exact hwhole .style

/-- A line of a file is silenced if it is so in one of the parts. -/
theorem silenced_iff (file : SourceFile) (k : Nat) (id : String) :
    Silenced file.text.lines k id ↔ ∃ p ∈ file.parts, p.Silences file k id := by
  constructor
  · rintro (h | ⟨n, rfl, h⟩)
    · obtain ⟨p, hp, j, hj, hnames⟩ := (file.names_iff_parts _ _ _).mp h
      exact ⟨p, hp, j, hj, .inl hnames⟩
    · obtain ⟨p, hp, j, hj, hnames⟩ := (file.names_iff_parts _ _ _).mp h
      exact ⟨p, hp, j + 1, by omega, .inr ⟨j, rfl, hnames⟩⟩
  · rintro ⟨p, hp, i, rfl, h | ⟨j, rfl, h⟩⟩
    · exact .inl ((file.names_iff_parts _ _ _).mpr ⟨p, hp, i, rfl, h⟩)
    · exact .inr ⟨p.line + j, by omega, (file.names_iff_parts _ _ _).mpr ⟨p, hp, j, rfl, h⟩⟩

end SourceFile

namespace Scanner

/-- The directives of a line are those of its parts, and the findings of a file those of its parts.
A part has no finding on a line that its own directives silence. Scripts and style sheets have none
on any silenced line. -/
theorem scan_silenced (s : Scanner) (file : SourceFile) :
    (∀ k id, Silenced file.text.lines k id ↔ ∃ p ∈ file.parts, p.Silences file k id) ∧
    s.scan file = file.parts.flatMap (s.partFindings file) ∧
    (∀ p ∈ file.parts, ∀ f ∈ s.partFindings file p, ∀ k, f.line = k + 1 →
      ¬ p.Silences file k f.ruleId) ∧
    (file.kind ≠ .component → ∀ f ∈ s.scan file, ∀ k, f.line = k + 1 →
      ¬ Silenced file.text.lines k f.ruleId) := by
  refine ⟨file.silenced_iff, s.scan_eq_parts file, fun p _ f hf k => not_silences_of_mem_partFindings hf, ?_⟩
  intro hkind f hf k hk hs
  -- There is one part, which the finding and the directive share.
  obtain ⟨mode, hparts⟩ : ∃ mode, file.parts = [.whole mode] := by
    unfold SourceFile.parts
    cases h : file.kind with
    | component => exact absurd h hkind
    | script => exact ⟨_, rfl⟩
    | style => exact ⟨_, rfl⟩
  obtain ⟨p, hp, hs⟩ := (file.silenced_iff k f.ruleId).mp hs
  rw [scan_eq_parts, hparts, List.flatMap_singleton] at hf
  rw [hparts, List.mem_singleton] at hp
  subst hp
  exact not_silences_of_mem_partFindings hf hk hs

/-- In a component, directives beside a block or above it miss what is found in the block. -/
theorem directive_beside_block :
    let pattern : Pattern := ⟨"eval", .ofRegex (.text (Text.ofString "eval"))⟩
    let s : Scanner := ⟨⟨[.ofLine "no-eval" pattern], .none⟩, ⟨[], [], []⟩⟩
    let beside : SourceFile :=
      ⟨"a.svelte", Text.ofString "<script>eval(x)</script><!-- glint-ignore no-eval -->", .component⟩
    let above : SourceFile :=
      ⟨"a.svelte", Text.ofString "<!-- glint-ignore-next-line no-eval -->\n<script>eval(x)</script>", .component⟩
    (Silenced beside.text.lines 0 "no-eval" ∧ ∃ f ∈ s.scan beside, f.line = 1 ∧ f.ruleId = "no-eval") ∧
    (Silenced above.text.lines 1 "no-eval" ∧ ∃ f ∈ s.scan above, f.line = 2 ∧ f.ruleId = "no-eval") := by
  intro pattern s beside above
  have hbeside : Component.spans beside.text = [(.script, ⟨8, 15, 24⟩)] := by
    rw [Component.spans_of_found (l := [(.script, ⟨8, 15, 24⟩)]) (by decide +kernel) (by decide)]
    decide
  have habove : Component.spans above.text = [(.script, ⟨48, 55, 64⟩)] := by
    rw [Component.spans_of_found (l := [(.script, ⟨48, 55, 64⟩)]) (by decide +kernel) (by decide)]
    decide
  refine ⟨⟨Suppressions.silences_ofLines.mp (by decide +kernel), ?_⟩,
    Suppressions.silences_ofLines.mp (by decide +kernel), ?_⟩
  · simp only [scan, candidates, candidatesAs, candidatesIn, componentCandidates, Component.split, hbeside]
    decide +kernel
  · simp only [scan, candidates, candidatesAs, candidatesIn, componentCandidates, Component.split, habove]
    decide +kernel

end Scanner

end FrontLint
