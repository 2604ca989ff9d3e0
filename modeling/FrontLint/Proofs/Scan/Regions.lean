/-
  FrontLint.Proofs.Scan.Regions — rules stay in the part of a component that they are for.

  A pass reads a copy of the component in which all but its own part is blanked: a block shows its body,
  the residue what stands in no body. So what is found, if it starts with no blank, stands in the part that
  the pass reads (`Mode.Covers`). Proved:
  - `componentCandidates_eq`: the blocks of a component are read one by one, then the residue twice.
  - `foundIn_of_mem_blockCandidates` / `foundIn_of_residue`: where these passes find something.
  - `scan_confined`: so a rule finds nothing outside the part that its scope names, and nothing at all in a
    file of the wrong class.
-/

import FrontLint.Proofs.Pass.Spans
import FrontLint.Proofs.Scan.Comments

namespace FrontLint

open FrontLint.Text FrontLint.Strip

/-! ## The parts of a component -/

/-- The language of a block. -/
def BlockKind.mode : BlockKind → Mode
  | .script => .script
  | .style => .style

namespace Component

/-- Character `i` stands in the body of a block of this kind. -/
def InBody (t : Text) (kind : BlockKind) (i : Nat) : Prop := ∃ s, (kind, s) ∈ spans t ∧ s.Holds i

/-- What the residue shows, blanks apart, stands in no body. -/
theorem outside_of_residue {t : Text} {i : Nat} {x : Char} (h : (split t).residue[i]? = some x)
    (hx : isBlank x = false) : t[i]? = some x ∧ ∀ kind, ¬ InBody t kind i := by
  rw [residue_getElem?] at h
  obtain ⟨y, hy, hyx⟩ := Option.map_eq_some_iff.mp h
  split at hyx
  · -- A masked character is a newline or a space.
    unfold Block.blankChar at hyx
    split at hyx
    · exact absurd hyx.symm (ne_of_not_blank hx rfl)
    · exact absurd hyx.symm (ne_of_not_blank hx rfl)
  · rename_i hout
    rw [hy, hyx]
    refine ⟨rfl, ?_⟩
    rintro kind ⟨s, hs, hholds⟩
    exact hout ⟨(kind, s), hs, hholds⟩

end Component

/-- Character `i` of a component belongs to the part that is read in `mode`. -/
def Mode.Covers (mode : Mode) (t : Text) (i : Nat) : Prop :=
  match mode with
  | .script => Component.InBody t .script i
  | .style => Component.InBody t .style i
  | .markup => ∀ kind, ¬ Component.InBody t kind i

theorem BlockKind.covers_mode {kind : BlockKind} {t : Text} {i : Nat} :
    kind.mode.Covers t i ↔ Component.InBody t kind i := by
  cases kind <;> rfl

/-! ## Where the passes find something -/

/-- If a candidate starts with no blank, it points at that character in a part of the text. -/
def Candidate.PointsWithin (f : Candidate) (t : Text) (part : Nat → Prop) : Prop :=
  ∀ x w, f.matched = x :: w → isBlank x = false → ∃ i, t[i]? = some x ∧ f.PointsAt t i ∧ part i

namespace Scanner

variable {s : Scanner} {file : SourceFile} {c : FileClass} {f : Candidate}

theorem componentCandidates_eq (s : Scanner) (file : SourceFile) (c : FileClass) :
    s.componentCandidates file c =
      (Component.blockSpans file.text).flatMap
        (fun b => s.blockCandidates file b.1.mode c (Block.ofSpan file.text b.2)) ++
      s.residueCandidates file c := by
  have hblocks : ∀ kind : BlockKind,
      (((Component.spans file.text).filter (·.1 == kind)).map fun b => Block.ofSpan file.text b.2).flatMap
          (s.blockCandidates file kind.mode c) =
        ((Component.spans file.text).filter (·.1 == kind)).flatMap
          fun b => s.blockCandidates file b.1.mode c (Block.ofSpan file.text b.2) := by
    intro kind
    rw [List.flatMap_map]
    refine List.flatMap_congr fun b hb => ?_
    obtain ⟨-, hkind⟩ := List.mem_filter.mp hb
    rw [beq_iff_eq.mp hkind]
  rw [Component.blockSpans, List.flatMap_append, ← hblocks .script, ← hblocks .style]
  simp only [componentCandidates, residueCandidates, List.append_assoc]
  rfl

/-- A candidate of a pass in `mode`: its rule runs there, and it points into the part that is read there. -/
structure FoundIn (s : Scanner) (t : Text) (c : FileClass) (mode : Mode) (f : Candidate) : Prop where
  in_scope : f.rule.scope.applies mode c = true
  not_excluded : ∀ tag ∈ s.table.exclusions.tags f.rule.id, c.has tag = false
  covered : f.PointsWithin t (mode.Covers t)

theorem pointsWithin_body {b : BlockKind × Block.Span} (hb : b ∈ Component.spans file.text)
    (hf : f ∈ s.blockCandidates file b.1.mode c (Block.ofSpan file.text b.2)) :
    f.PointsWithin file.text b.2.Holds := by
  intro x w hx hblank
  exact holds_of_mem_blockCandidates hb hf hx hblank

theorem foundIn_of_mem_blockCandidates {b : BlockKind × Block.Span} (hb : b ∈ Component.spans file.text)
    (hf : f ∈ s.blockCandidates file b.1.mode c (Block.ofSpan file.text b.2)) :
    s.FoundIn file.text c b.1.mode f := by
  obtain ⟨k, hr⟩ := LinePass.runs_of_mem_candidates hf
  refine ⟨hr.in_scope, hr.not_excluded, ?_⟩
  intro x w hx hblank
  obtain ⟨i, hget, hat, hholds⟩ := pointsWithin_body hb hf x w hx hblank
  exact ⟨i, hget, hat, BlockKind.covers_mode.mpr ⟨b.2, hb, hholds⟩⟩

theorem foundIn_of_residue (hf : f ∈ s.residueCandidates file c) : s.FoundIn file.text c .markup f := by
  have hcovered : ∀ {x : Char}, isBlank x = false →
      (∃ i, (Component.split file.text).residue[i]? = some x ∧
        f.PointsAt (Component.split file.text).residue i) →
      ∃ i, file.text[i]? = some x ∧ f.PointsAt file.text i ∧ Mode.markup.Covers file.text i := by
    intro x hblank h
    obtain ⟨i, hget, hat⟩ := h
    obtain ⟨htext, hout⟩ := Component.outside_of_residue hget hblank
    rw [Candidate.PointsAt, place_congr (Component.breaks_residue file.text)] at hat
    exact ⟨i, htext, hat, hout⟩
  rcases List.mem_append.mp hf with hf | hf
  · obtain ⟨k, hr⟩ := LinePass.runs_of_mem_candidates hf
    refine ⟨hr.in_scope, hr.not_excluded, fun x w hx hblank => hcovered hblank ?_⟩
    obtain ⟨i, hget, hat, -⟩ := pointsAt_uncommented_of_linePass rfl rfl hf hx hblank
    exact ⟨i, hget, hat⟩
  · obtain ⟨k, hr⟩ := SpanPass.runs_of_mem_candidates hf
    refine ⟨hr.in_scope, hr.not_excluded, fun x w hx hblank => hcovered hblank ?_⟩
    obtain ⟨i, hget, hat, -⟩ := pointsAt_uncommented_of_spanPass hf hx hblank
    exact ⟨i, hget, hat⟩

/-- What is found in a component is found by a pass in one of the languages. -/
theorem exists_foundIn (hf : f ∈ s.componentCandidates file c) : ∃ mode, s.FoundIn file.text c mode f := by
  rw [componentCandidates_eq] at hf
  rcases List.mem_append.mp hf with hf | hf
  · obtain ⟨b, hb, hf⟩ := List.mem_flatMap.mp hf
    exact ⟨b.1.mode, foundIn_of_mem_blockCandidates (Component.mem_blockSpans.mp hb) hf⟩
  · exact ⟨.markup, foundIn_of_residue hf⟩

/-! ## The scan -/

/-- The findings of a component come from its candidates. These are in a component of the class that their
rule asks for, and of none that the rule is excluded from. One that starts with no blank stands in the part
of the component that its rule is for. -/
theorem scan_confined (s : Scanner) (path : String) (t : Text) :
    let c := s.classifier.classify path.toList .component
    let found := s.candidates ⟨path, t, .component⟩
    s.scan ⟨path, t, .component⟩ = (found.filter Candidate.accepted).map Candidate.finding ∧
    ∀ f ∈ found,
      (f.rule.scope = .serverOnly → c.serverOnly = true) ∧ (f.rule.scope = .config → c.config = true) ∧
      (∀ tag ∈ s.table.exclusions.tags f.rule.id, c.has tag = false) ∧
      ∀ x w, f.matched = x :: w → isBlank x = false → ∃ i, t[i]? = some x ∧ f.PointsAt t i ∧
        (f.rule.scope = .script ∨ f.rule.scope = .serverOnly → Component.InBody t .script i) ∧
        (f.rule.scope = .style → Component.InBody t .style i) ∧
        (f.rule.scope = .markup → ∀ kind, ¬ Component.InBody t kind i) := by
  intro c found
  refine ⟨rfl, fun f hf => ?_⟩
  obtain ⟨mode, hscope, hexcluded, hcovered⟩ := exists_foundIn hf
  refine ⟨?_, ?_, hexcluded, ?_⟩
  · intro h
    rw [h] at hscope
    simp only [Scope.applies, Bool.and_eq_true] at hscope
    exact hscope.2
  · intro h
    rw [h] at hscope
    exact hscope
  · intro x w hx hblank
    obtain ⟨i, hget, hat, hi⟩ := hcovered x w hx hblank
    refine ⟨i, hget, hat, ?_, ?_, ?_⟩
    · intro h
      obtain rfl : mode = .script := by
        rcases h with h | h <;> rw [h] at hscope <;> simp [Scope.applies] at hscope
        · exact hscope
        · exact hscope.1
      exact hi
    · intro h
      obtain rfl : mode = .style := by
        rw [h] at hscope
        simpa [Scope.applies] using hscope
      exact hi
    · intro h
      obtain rfl : mode = .markup := by
        rw [h] at hscope
        simpa [Scope.applies] using hscope
      exact hi

/-- A rule for scripts finds the second `eval`, behind a wide character. -/
theorem scan_confined_to_script :
    let pattern : Pattern := ⟨"eval", .ofRegex (.text (Text.ofString "eval"))⟩
    let rule : Rule := { Rule.ofLine "no-eval" pattern with scope := .script }
    let s : Scanner := ⟨⟨[rule], .none⟩, ⟨[], [], []⟩⟩
    let t := Text.ofString "é{eval}<script>eval(x)</script>"
    ∃ f ∈ s.candidates ⟨"a.svelte", t, .component⟩, f.rule.scope = .script ∧
      f.matched = Text.ofString "eval" ∧ f.PointsAt t 15 ∧ Component.InBody t .script 15 := by
  intro pattern rule s t
  have hspans : Component.spans t = [(.script, ⟨15, 22, 31⟩)] := by
    rw [Component.spans_of_found (l := [(.script, ⟨15, 22, 31⟩)]) (by decide +kernel) (by decide)]
    decide
  have hfound : ∃ f ∈ s.candidates ⟨"a.svelte", t, .component⟩, f.rule.scope = .script ∧
      f.matched = Text.ofString "eval" ∧ f.PointsAt t 15 := by
    simp only [candidates, candidatesAs, candidatesIn, componentCandidates, Component.split, hspans]
    decide +kernel
  obtain ⟨f, hf, hscope, hmatched, hat⟩ := hfound
  obtain ⟨-, hconfined⟩ := scan_confined s "a.svelte" t
  obtain ⟨-, -, -, hplace⟩ := hconfined f hf
  obtain ⟨i, hget, hat', hscript, -⟩ := hplace 'e' (Text.ofString "val") hmatched (by decide)
  obtain ⟨hi, -⟩ := List.getElem?_eq_some_iff.mp hget
  obtain rfl : i = 15 := hat'.unique hat (Nat.le_of_lt hi) (by decide)
  exact ⟨f, hf, hscope, hmatched, hat, hscript (.inl hscope)⟩

end Scanner

end FrontLint
