/-
  FrontLint.Proofs.Scan.Unrepeated — nothing is reported twice.

  Within a pass, the matches of a rule start at different offsets. A match that starts with no blank starts
  at a character of the file, so its offset can be told from its line and column. Between the passes, the
  parts of a component that they read have no character in common, and a rule runs line by line or over
  lines, not both. Proved:
  - `start_of_blanked`: such a match starts where a character of the text does.
  - `LinePass.candidates_apart` / `SpanPass.candidates_apart`: no pass finds something twice.
  - `Scanner.component_apart`: nor do two passes.
  - `scan_unrepeated`: so no two findings of a file are of one rule at one place.
-/

import FrontLint.Proofs.Rule.Distinct
import FrontLint.Proofs.Scan.Regions

namespace FrontLint

open FrontLint.Text FrontLint.Strip

/-- Two findings are of the same rule at the same place. -/
structure Finding.Repeats (f g : Finding) : Prop where
  rule_eq : f.ruleId = g.ruleId
  line_eq : f.line = g.line
  column_eq : f.column = g.column

namespace Candidate

/-- A candidate comes from a match that starts with no blank. -/
def Visible (c : Candidate) : Prop := ∃ x w, c.matched = x :: w ∧ isBlank x = false

/-- Two candidates are not of the same rule at the same place, unless one starts with a blank. -/
def Apart (a b : Candidate) : Prop := a.Visible → b.Visible → ¬ a.finding.Repeats b.finding

end Candidate

/-! ## Within a pass -/

/-- A match that starts with no blank starts where a character of the text before cleaning does. -/
theorem start_of_blanked {raw cleaned : Text} (h : Blanked raw cleaned) {m : Match} (hm : m.Occurs 0 cleaned)
    {x : Char} {w : Text} (hx : m.text = x :: w) (hb : isBlank x = false) :
    m.start = raw.byteOffset (raw.charsBefore m.start) := by
  obtain ⟨a, b, rfl, hstart, -⟩ := hm
  rw [hx, List.append_assoc, List.cons_append] at h
  obtain ⟨u, v, rfl, hu, -⟩ := h.split_at (ne_of_not_blank hb rfl) rfl
  rw [hstart, Nat.zero_add, hu.width_eq, charsBefore_width_append, byteOffset, List.take_left]

/-- Matches that start with no blank start at the same offset if they do so at the same character. -/
theorem start_eq_of_charsBefore_eq {raw cleaned : Text} (h : Blanked raw cleaned) {m n : Match}
    (hm : m.Occurs 0 cleaned) (hn : n.Occurs 0 cleaned) {x y : Char} {v w : Text} (hx : m.text = x :: v)
    (hy : n.text = y :: w) (hbx : isBlank x = false) (hby : isBlank y = false)
    (he : raw.charsBefore m.start = raw.charsBefore n.start) : m.start = n.start := by
  rw [start_of_blanked h hm hx hbx, start_of_blanked h hn hy hby, he]

/-- A pass over lines finds nothing twice. -/
theorem LinePass.candidates_apart {t : RuleTable} (ht : t.Made) (p : LinePass) (lines : List Text) :
    (p.candidates t lines).Pairwise Candidate.Apart := by
  rw [← hits_map, List.pairwise_map]
  refine (p.hits_pairwise t lines).imp_of_mem ?_
  intro a b ha hb hbefore hva hvb hsame
  obtain ⟨l, r, hl, -, hr, -, hm, hline, hc⟩ := mem_hits.mp ha
  obtain ⟨l', r', hl', -, hr', -, hm', hline', hc'⟩ := mem_hits.mp hb
  rw [hc] at hva hsame
  rw [hc'] at hvb hsame
  -- The rule is one rule of the table and the line one line of the pass, so the matches come in order.
  have hrule : a.1.rule = b.1.rule := ht.number_unique hr.rule_eq hr'.rule_eq hsame.rule_eq
  have hindex : l.index = l'.index := by
    have h : p.offset + l.index + 1 = p.offset + l'.index + 1 := hsame.line_eq
    omega
  obtain rfl : l = l' := hl.unique hl' hindex
  have hlt : a.1.found.start < b.1.found.start := by
    rcases hbefore with h | ⟨-, h | ⟨-, h⟩⟩
    · omega
    · omega
    · exact h
  obtain ⟨x, v, hx, hbx⟩ := hva
  obtain ⟨y, w, hy, hby⟩ := hvb
  have hchars : l.raw.charsBefore a.1.found.start = l.raw.charsBefore b.1.found.start :=
    Nat.succ.inj hsame.column_eq
  obtain ⟨s, -, hclean⟩ := hl.cleaned_eq
  have hblanked : Blanked l.raw l.cleaned := hclean ▸ strip_blanked p.mode l.raw s
  have heq := start_eq_of_charsBefore_eq hblanked (Pattern.findMatches_occurs hm)
    (Pattern.findMatches_occurs hm') hx hy hbx hby hchars
  omega

/-- The pass over a whole text finds nothing twice. -/
theorem SpanPass.candidates_apart {t : RuleTable} (ht : t.Made) (p : SpanPass) (residue : Text) :
    (p.candidates t residue).Pairwise Candidate.Apart := by
  rw [← hits_map, List.pairwise_map]
  refine (p.hits_pairwise t residue).imp_of_mem ?_
  intro a b ha hb hbefore hva hvb hsame
  obtain ⟨r, hr, hm, -, -, hc⟩ := mem_hits.mp ha
  obtain ⟨r', hr', hm', -, -, hc'⟩ := mem_hits.mp hb
  rw [hc] at hva hsame
  rw [hc'] at hvb hsame
  have hrule : a.1.rule = b.1.rule := ht.number_unique hr.rule_eq hr'.rule_eq hsame.rule_eq
  have hlt : a.1.found.start < b.1.found.start := by
    rcases hbefore with h | ⟨-, h⟩
    · omega
    · exact h
  obtain ⟨x, v, hx, hbx⟩ := hva
  obtain ⟨y, w, hy, hby⟩ := hvb
  have hchars : residue.charsBefore a.1.found.start = residue.charsBefore b.1.found.start := by
    refine place_inj (charsBefore_le_length _ _) (charsBefore_le_length _ _) ?_
    have hline := Nat.succ.inj hsame.line_eq
    have hcolumn := Nat.succ.inj hsame.column_eq
    simp only [place, LineCol.mk.injEq]
    exact ⟨hline, hcolumn⟩
  have heq := start_eq_of_charsBefore_eq (blanked_cleaned residue) (Pattern.findMatches_occurs hm)
    (Pattern.findMatches_occurs hm') hx hy hbx hby hchars
  omega

/-! ## Between passes -/

namespace Scanner

variable {s : Scanner} {file : SourceFile} {c : FileClass} {f g : Candidate}

/-- Candidates that point into parts without a common character are apart. -/
theorem apart_of_disjoint {t : Text} {part part' : Nat → Prop} (hdisjoint : ∀ i, part i → ¬ part' i)
    (hf : f.PointsWithin t part) (hg : g.PointsWithin t part') : f.Apart g := by
  intro ⟨x, v, hx, hbx⟩ ⟨y, w, hy, hby⟩ hsame
  obtain ⟨i, hi, hat, hpart⟩ := hf x v hx hbx
  obtain ⟨j, hj, hat', hpart'⟩ := hg y w hy hby
  have hboth : f.PointsAt t j := ⟨hsame.line_eq.trans hat'.1, hsame.column_eq.trans hat'.2⟩
  obtain ⟨hi, -⟩ := List.getElem?_eq_some_iff.mp hi
  obtain ⟨hj, -⟩ := List.getElem?_eq_some_iff.mp hj
  obtain rfl : i = j := hat.unique hboth (Nat.le_of_lt hi) (Nat.le_of_lt hj)
  exact hdisjoint i hpart hpart'

/-- A rule runs line by line or over lines. -/
theorem apart_of_kinds {p : LinePass} {q : SpanPass} {t : RuleTable} (ht : t.Made) {lines : List Text}
    {residue : Text} (hf : f ∈ p.candidates t lines) (hg : g ∈ q.candidates t residue) : f.Apart g := by
  intro _ _ hsame
  obtain ⟨j, hr⟩ := LinePass.runs_of_mem_candidates hf
  obtain ⟨k, hr'⟩ := SpanPass.runs_of_mem_candidates hg
  obtain rfl : j = k := ht.number_unique hr.rule_eq hr'.rule_eq hsame.rule_eq
  have hrule : f.rule = g.rule := Option.some.inj (hr.rule_eq.symm.trans hr'.rule_eq)
  have hline := hr.isMultiline_eq
  rw [hrule, hr'.isMultiline_eq] at hline
  cases hline

theorem blocks_apart (ht : s.table.Made) (file : SourceFile) (c : FileClass) :
    ((Component.blockSpans file.text).flatMap fun b =>
      s.blockCandidates file b.1.mode c (Block.ofSpan file.text b.2)).Pairwise Candidate.Apart := by
  refine List.pairwise_flatMap.mpr ⟨fun b _ => LinePass.candidates_apart ht _ _, ?_⟩
  refine (Component.blockSpans_nodup file.text).imp_of_mem ?_
  intro b b' hb hb' hne f hf g hg
  have hmem := Component.mem_blockSpans.mp hb
  have hmem' := Component.mem_blockSpans.mp hb'
  have hdisjoint : ∀ i, b.2.Holds i → ¬ b'.2.Holds i := by
    intro i hi hi'
    exact hne (Component.holds_unique hmem hmem' hi hi')
  exact apart_of_disjoint hdisjoint (pointsWithin_body hmem hf) (pointsWithin_body hmem' hg)

theorem residue_apart (ht : s.table.Made) (file : SourceFile) (c : FileClass) :
    (s.residueCandidates file c).Pairwise Candidate.Apart :=
  List.pairwise_append.mpr ⟨LinePass.candidates_apart ht _ _, SpanPass.candidates_apart ht _ _,
    fun _ hf _ hg => apart_of_kinds ht hf hg⟩

/-- The passes over a component find nothing twice. -/
theorem component_apart (ht : s.table.Made) (file : SourceFile) (c : FileClass) :
    (s.componentCandidates file c).Pairwise Candidate.Apart := by
  rw [componentCandidates_eq]
  refine List.pairwise_append.mpr ⟨blocks_apart ht file c, residue_apart ht file c, ?_⟩
  intro f hf g hg
  obtain ⟨b, hb, hf⟩ := List.mem_flatMap.mp hf
  have hcovers : ∀ i, b.1.mode.Covers file.text i → ¬ Mode.markup.Covers file.text i := by
    intro i hi hout
    exact hout b.1 (BlockKind.covers_mode.mp hi)
  have hblock := foundIn_of_mem_blockCandidates (Component.mem_blockSpans.mp hb) hf
  exact apart_of_disjoint hcovers hblock.covered (foundIn_of_residue hg).covered

/-! ## The scan -/

/-- The findings of a file come from its accepted candidates, one from each. No two of them that start with
no blank are of one rule at one place. -/
theorem scan_unrepeated (s : Scanner) (ht : s.table.Made) (file : SourceFile) :
    s.scan file = ((s.candidates file).filter Candidate.accepted).map Candidate.finding ∧
    ((s.candidates file).filter Candidate.accepted).Pairwise fun a b =>
      a.Visible → b.Visible → ¬ a.finding.Repeats b.finding := by
  refine ⟨rfl, List.Pairwise.filter _ ?_⟩
  unfold candidates candidatesAs candidatesIn
  cases file.kind with
  | component => exact component_apart ht file _
  | script => exact LinePass.candidates_apart ht _ _
  | style => exact LinePass.candidates_apart ht _ _

/-- A rule for all passes, in a component with all parts on one line. -/
theorem scan_unrepeated_all_parts :
    let pattern : Pattern := ⟨"eval", .ofRegex (.text (Text.ofString "eval"))⟩
    let s : Scanner := ⟨⟨[.ofLine "no-eval" pattern], .none⟩, ⟨[], [], []⟩⟩
    let file : SourceFile :=
      ⟨"a.svelte", Text.ofString "eval<script>eval</script><style>eval</style>", .component⟩
    s.table.Made ∧ (s.scan file).map (fun f => (f.line, f.column)) = [(1, 13), (1, 33), (1, 1)] ∧
      ((s.candidates file).filter Candidate.accepted).Pairwise fun a b =>
        a.Visible → b.Visible → ¬ a.finding.Repeats b.finding := by
  intro pattern s file
  have hmade : s.table.Made := @RuleTable.Made.ofRules s.table.rules s.table.exclusions s.table rfl
  have hspans : Component.spans file.text = [(.script, ⟨12, 16, 25⟩), (.style, ⟨32, 36, 44⟩)] := by
    rw [Component.spans_of_found (l := [(.script, ⟨12, 16, 25⟩), (.style, ⟨32, 36, 44⟩)]) (by decide +kernel)
      (by decide)]
    decide
  have hscan : (s.scan file).map (fun f => (f.line, f.column)) = [(1, 13), (1, 33), (1, 1)] := by
    simp only [scan, candidates, candidatesAs, candidatesIn, componentCandidates, Component.split, hspans]
    decide +kernel
  exact ⟨hmade, hscan, (scan_unrepeated s hmade file).2⟩

end Scanner

end FrontLint
