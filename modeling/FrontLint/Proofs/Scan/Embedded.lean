/-
  FrontLint.Proofs.Scan.Embedded — a block of a component is read as if its body were a file.

  A block whose body starts with a newline has a first line of spaces, where the file of its body has an
  empty one. Behind that line both have the same lines, the block further down. Proved:
  - `Block.lines_ofSpan`: the lines of such a block.
  - `blockCandidates_eq`: it has the candidates of that file, moved down.
  - `block_findings`: and so it has the findings of that file, whatever stands around the block.
-/

import FrontLint.Proofs.Pass.Relocation
import FrontLint.Proofs.Scan.Regions

namespace FrontLint

open FrontLint.Text FrontLint.Strip

/-- The blocks of one kind. -/
def Component.ofKind (c : Component) : BlockKind → List Block
  | .script => c.scripts
  | .style => c.styles

theorem Component.mem_ofKind {t : Text} {b : BlockKind × Block.Span} (hb : b ∈ spans t) :
    Block.ofSpan t b.2 ∈ (split t).ofKind b.1 := by
  have hmem : Block.ofSpan t b.2 ∈ ((spans t).filter (·.1 == b.1)).map fun s => Block.ofSpan t s.2 :=
    List.mem_map.mpr ⟨b, List.mem_filter.mpr ⟨hb, beq_self_eq_true b.1⟩, rfl⟩
  unfold ofKind
  cases hkind : b.1 with
  | script =>
    rw [hkind] at hmem
    exact hmem
  | style =>
    rw [hkind] at hmem
    exact hmem

/-- A block has the lines of its body, if the first of these is empty, with spaces for that one. -/
theorem Block.lines_ofSpan {t : Text} {s : Block.Span} {rest : Text} (h : s.body t = '\n' :: rest) :
    ∃ n, (Block.ofSpan t s).text.lines = spaces n :: rest.lines := by
  refine ⟨(lastLine (t.take s.start)).length, ?_⟩
  have hlines := lines_append_of_not_mem (newline_not_mem_spaces (lastLine (t.take s.start)).length)
    (lines_cons_newline rest)
  rw [List.append_nil] at hlines
  rw [Block.ofSpan, h, hlines]

namespace Scanner

/-- The candidates of a block are those of the file that its body is, moved down. -/
theorem blockCandidates_eq (s : Scanner) (path : String) (t : Text) (kind : FileKind) (mode : Mode)
    (c : FileClass) {span : Block.Span} (h : (span.body t).head? = some '\n') :
    s.blockCandidates ⟨path, t, .component⟩ mode c (Block.ofSpan t span) =
      (s.wholeCandidates ⟨path, span.body t, kind⟩ mode c).map
        (Candidate.below (Block.ofSpan t span).startLine) := by
  obtain ⟨rest, hrest⟩ := List.head?_eq_some_iff.mp h
  obtain ⟨n, hlines⟩ := Block.lines_ofSpan hrest
  let p := LinePass.whole path mode c
  have hpass : { p with offset := (Block.ofSpan t span).startLine } =
      p.movedBy (Block.ofSpan t span).startLine := by
    rw [LinePass.movedBy, show p.offset = 0 from rfl, Nat.zero_add]
  have hskips : ¬ p.Skips 0 := p.not_skips_unskipped 0
  have hfirst : p.candidates s.table (spaces n :: lines rest) = p.candidates s.table ([] :: lines rest) :=
    LinePass.candidates_idle hskips (idle_spaces mode n) (idle_spaces mode 0) s.table (lines rest)
  show LinePass.candidates { p with offset := (Block.ofSpan t span).startLine } s.table _ =
    (p.candidates s.table (span.body t).lines).map _
  rw [hpass, LinePass.candidates_movedBy, hlines, hfirst, hrest, lines_cons_newline]

/-- A block whose body starts with a newline has the findings of the file that its body is, on lines as
far down as the block starts. -/
theorem block_findings (s : Scanner) (ht : s.table.LineBlind) (path : String) (t : Text) (c : FileClass)
    (kind : FileKind) : ∀ b ∈ Component.spans t, (b.2.body t).head? = some '\n' →
      Block.ofSpan t b.2 ∈ (Component.split t).ofKind b.1 ∧
      Candidate.findings (s.blockCandidates ⟨path, t, .component⟩ b.1.mode c (Block.ofSpan t b.2)) =
        (Candidate.findings (s.wholeCandidates ⟨path, b.2.body t, kind⟩ b.1.mode c)).map
          (Finding.below (Block.ofSpan t b.2).startLine) := by
  intro b hb hbody
  refine ⟨Component.mem_ofKind hb, ?_⟩
  rw [blockCandidates_eq s path t kind b.1.mode c hbody]
  exact Candidate.findings_below ht (fun f hf => LinePass.rule_mem_of_mem_candidates hf) _

/-- A script on the second line of a component, with a comment that is left open. The directive on the line
above is not its own. -/
theorem block_findings_second_line :
    let pattern : Pattern := ⟨"eval\\(x\\)", .ofRegex (.text (Text.ofString "eval(x)"))⟩
    let rule : Rule := { Rule.ofLine "no-eval" pattern with
      validator := Validator.builtin "non-literal-argument" }
    let s : Scanner := ⟨⟨[rule], .none⟩, ⟨[], [], []⟩⟩
    let t := Text.ofString "<!-- glint-ignore-next-line no-eval -->\n<script>\n eval(x)\n/* eval(x)</script>"
    let file : SourceFile := ⟨"a.svelte", Text.ofString "\n eval(x)\n/* eval(x)", .script⟩
    let c : FileClass := ⟨false, false, false, true⟩
    ∃ b ∈ Component.spans t, b.1 = .script ∧ b.2.body t = file.text ∧
      (Candidate.findings (s.wholeCandidates file .script c)).map (fun f => (f.line, f.column)) = [(2, 2)] ∧
      Candidate.findings (s.blockCandidates ⟨"a.svelte", t, .component⟩ .script c (Block.ofSpan t b.2)) =
        (Candidate.findings (s.wholeCandidates file .script c)).map (Finding.below 1) := by
  intro pattern rule s t file c
  have hspans : Component.spans t = [(.script, ⟨48, 68, 77⟩)] := by
    rw [Component.spans_of_found (l := [(.script, ⟨48, 68, 77⟩)]) (by decide +kernel) (by decide)]
    decide
  have hblind : s.table.LineBlind := by
    intro r hr v hv matched path line line' content
    obtain rfl : r = rule := List.mem_singleton.mp hr
    obtain rfl : v = ⟨fun matched _ => Validator.nonLiteralArgument matched⟩ := (Option.some.inj hv).symm
    rfl
  have hmem : (BlockKind.script, (⟨48, 68, 77⟩ : Block.Span)) ∈ Component.spans t := by
    rw [hspans]
    exact List.mem_singleton_self _
  have hbody : Block.Span.body ⟨48, 68, 77⟩ t = file.text := by decide +kernel
  obtain ⟨-, hfindings⟩ := block_findings s hblind "a.svelte" t c .script _ hmem (by rw [hbody]; rfl)
  rw [hbody] at hfindings
  exact ⟨_, hmem, rfl, hbody, by decide +kernel, hfindings⟩

end Scanner

end FrontLint
