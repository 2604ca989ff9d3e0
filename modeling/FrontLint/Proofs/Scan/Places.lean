/-
  FrontLint.Proofs.Scan.Places — findings point into the file.

  A match is found in a cleaned line of a block, of the residue or of the file. Its column is counted
  in the line before cleaning, its line from the start of the file. `Located` says where that leads:
  to a line of the file, and a column of it or the one behind it; `Candidate.PointsInto` adds that
  what is shown stands there. Proved:
  - `pointsInto_of_linePass`: for the candidates of a pass over lines that lie over the file.
  - `pointsInto_of_spanPass`: for those of the pass over the residue as a whole.
  - `scan_located`: for every finding of a scan.
-/

import FrontLint.Proofs.Block.Overlay
import FrontLint.Proofs.Pattern.Occurrence
import FrontLint.Proofs.Strip.Layout
import FrontLint.Scan.Basic

namespace FrontLint

open FrontLint.Text FrontLint.Strip

/-- Line and column, from 1, lie in `t`: on line `outer`, at one of its characters or at its end. -/
structure Located (t : Text) (line column : Nat) (outer : Text) : Prop where
  line_pos : 1 ≤ line
  line_le : line ≤ t.lines.length
  line_eq : t.lines[line - 1]? = some outer
  column_pos : 1 ≤ column
  column_le : column ≤ outer.length + 1

theorem located_of_getElem? {t outer : Text} {i column : Nat} (h : t.lines[i]? = some outer)
    (hpos : 1 ≤ column) (hle : column ≤ outer.length + 1) : Located t (i + 1) column outer := by
  obtain ⟨hi, -⟩ := List.getElem?_eq_some_iff.mp h
  exact ⟨by omega, by omega, h, hpos, hle⟩

/-- A candidate points into `t`. If it comes from a line rule and shows no spaces, the line it points
at goes on with what it shows. -/
def Candidate.PointsInto (c : Candidate) (t : Text) : Prop :=
  ∃ outer, Located t c.context.line c.column outer ∧
    (c.rule.isMultiline = false → ' ' ∉ c.shown → c.shown <+: outer.drop (c.column - 1))

/-! ## The line pass -/

namespace LinePass

theorem mem_cleanFrom {p : LinePass} {index : Nat} {s : Stripper} {lines : List Text} {l : CleanLine}
    (h : l ∈ p.cleanFrom index s lines) :
    ∃ i, l.index = index + i ∧ lines[i]? = some l.raw ∧ Blanked l.raw l.cleaned := by
  induction lines generalizing index s with
  | nil => simp [cleanFrom] at h
  | cons raw rest ih =>
    have later : ∀ {s : Stripper}, l ∈ p.cleanFrom (index + 1) s rest →
        ∃ i, l.index = index + i ∧ (raw :: rest)[i]? = some l.raw ∧ Blanked l.raw l.cleaned := by
      intro s h
      obtain ⟨i, hi, hraw, hb⟩ := ih h
      exact ⟨i + 1, by omega, by simpa using hraw, hb⟩
    rw [cleanFrom] at h
    split at h
    · exact later h
    · rcases List.mem_cons.mp h with rfl | h
      · exact ⟨0, rfl, rfl, strip_blanked s.mode raw s.state⟩
      · exact later h

/-- A candidate is a match in a cleaned line. -/
theorem exists_of_mem_candidates {p : LinePass} {table : RuleTable} {lines : List Text} {c : Candidate}
    (h : c ∈ p.candidates table lines) :
    ∃ l r m, lines[l.index]? = some l.raw ∧ Blanked l.raw l.cleaned ∧ m.Occurs 0 l.cleaned ∧
      c = p.candidate l r m := by
  obtain ⟨l, hl, h⟩ := List.mem_flatMap.mp h
  obtain ⟨i, hi, hraw, hb⟩ := mem_cleanFrom hl
  rw [Nat.zero_add] at hi
  unfold lineCandidates at h
  split at h
  · simp at h
  · obtain ⟨r, -, h⟩ := List.mem_flatMap.mp h
    unfold ruleCandidates at h
    split at h
    · simp at h
    · obtain ⟨m, hm, rfl⟩ := List.mem_map.mp h
      exact ⟨l, r, m, hi ▸ hraw, hb, Pattern.findMatches_occurs hm, rfl⟩

end LinePass

/-- A part of a cleaned line without spaces starts in the line where its column says. -/
theorem prefix_drop_of_blanked {raw cleaned : Text} (h : Blanked raw cleaned) {m : Match}
    (hm : m.Occurs 0 cleaned) (hsp : ' ' ∉ m.text) :
    m.text <+: raw.drop (raw.charsBefore m.start) := by
  obtain ⟨a, b, rfl, hstart, -⟩ := hm
  by_cases hne : m.text = []
  · rw [hne]
    exact List.nil_prefix
  · obtain ⟨x, y, rfl, hx⟩ := h.split_around hsp hne
    rw [hstart, Nat.zero_add, hx.width_eq, List.append_assoc, charsBefore_width_append, List.drop_left]
    exact List.prefix_append _ _

theorem pointsInto_of_linePass {p : LinePass} {table : RuleTable} {u t : Text} {c : Candidate}
    (hu : Overlays u p.offset t) (h : c ∈ p.candidates table u.lines) : c.PointsInto t := by
  obtain ⟨l, r, m, hraw, hb, hm, rfl⟩ := LinePass.exists_of_mem_candidates h
  obtain ⟨outer, houter, hlen, hprefix⟩ := hu.exists_line hraw
  have hchars := charsBefore_le_length l.raw m.start
  refine ⟨outer, located_of_getElem? houter ?_ ?_, fun _ hsp => ?_⟩
  · simp [LinePass.candidate, columnAt]
  · simp only [LinePass.candidate, columnAt]
    omega
  · exact hprefix _ _ hsp (prefix_drop_of_blanked hb hm hsp)

/-! ## The span pass -/

/-- The index of the cleaned text is that of the text. -/
theorem ofText_cleaned (t : Text) : LineIndex.ofText (SpanPass.cleaned t) = LineIndex.ofText t := by
  have h := startsAfterNewlines_stripLines .markup 0
    (fun l hl => newline_not_mem_of_mem_lines (t := t) hl) .neutral
  rw [unlines_lines] at h
  unfold LineIndex.ofText SpanPass.cleaned
  rw [h]

namespace SpanPass

/-- The candidate of a match, placed by reading the residue. -/
def candidate (p : SpanPass) (residue : Text) (r : Rule) (m : Match) : Candidate :=
  { rule := r
    matched := m.text
    shown := preview m.text
    context := ⟨p.file, (residue.lineCol m.start).line, m.text⟩
    column := (residue.lineCol m.start).column }

/-- A candidate of the pass comes from a match of a rule that is not silenced. -/
theorem exists_of_mem_candidates {p : SpanPass} {t : RuleTable} {residue : Text} {c : Candidate}
    (h : c ∈ p.candidates t residue) :
    ∃ r ∈ p.activeRules t, ∃ m ∈ r.pattern.findMatches (cleaned residue) false,
      (Suppressions.ofLines residue.lines).silencesSpan ((residue.lineCol m.start).line - 1)
        (lastLine (.ofText residue) m - 1) r.id = false ∧ c = p.candidate residue r m := by
  obtain ⟨r, hr, h⟩ := List.mem_flatMap.mp h
  obtain ⟨m, hm, h⟩ := List.mem_filterMap.mp h
  rw [ofText_cleaned] at h
  unfold candidate? at h
  simp only [LineIndex.lineCol_ofText] at h
  split at h
  · cases h
  · rename_i hquiet
    rw [Bool.or_eq_true, not_or, Bool.not_eq_true, Bool.not_eq_true] at hquiet
    exact ⟨r, hr, m, hm, hquiet.2, (Option.some.inj h).symm⟩

end SpanPass

theorem exists_line_of_place {t : Text} (i : Nat) :
    ∃ outer, t.lines[(t.place i).line]? = some outer ∧ (t.place i).column ≤ outer.length := by
  have h := lines_append_getElem? (t.take i) (t.drop i)
  rw [List.take_append_drop] at h
  exact ⟨_, h, by simp [place]⟩

theorem pointsInto_of_spanPass {p : SpanPass} {table : RuleTable} {u t : Text} {c : Candidate}
    (hu : breaks u = breaks t) (h : c ∈ p.candidates table u) : c.PointsInto t := by
  obtain ⟨r, hr, m, -, -, rfl⟩ := SpanPass.exists_of_mem_candidates h
  have hrule : r.isMultiline = true := (List.mem_filter.mp (List.mem_filter.mp hr).1).2
  obtain ⟨outer, houter, hcolumn⟩ := exists_line_of_place (t := t) (u.charsBefore m.start)
  simp only [Candidate.PointsInto, SpanPass.candidate, lineCol_eq_place, place_congr hu]
  refine ⟨outer, located_of_getElem? houter (Nat.le_add_left 1 _) (Nat.succ_le_succ hcolumn), ?_⟩
  intro hline
  rw [hrule] at hline
  cases hline

/-! ## The scan -/

namespace Scanner

/-- What is found in the residue: by the pass over its lines, and by the pass over it as a whole. -/
def residueCandidates (s : Scanner) (file : SourceFile) (c : FileClass) : List Candidate :=
  s.markupCandidates file c (Component.split file.text) ++
    SpanPass.candidates ⟨file.path, c⟩ s.table (Component.split file.text).residue

variable {s : Scanner} {file : SourceFile} {c : Candidate}

theorem pointsInto_of_residue {fileClass : FileClass} (h : c ∈ s.residueCandidates file fileClass) :
    c.PointsInto file.text := by
  rcases List.mem_append.mp h with hc | hc
  · exact pointsInto_of_linePass (Component.overlays_residue file.text) hc
  · exact pointsInto_of_spanPass (Component.breaks_residue file.text) hc

theorem pointsInto_of_component {fileClass : FileClass} (h : c ∈ s.componentCandidates file fileClass) :
    c.PointsInto file.text := by
  have hblock : ∀ (mode : Mode), ∀ b ∈ (Component.split file.text).blocks,
      c ∈ s.blockCandidates file mode fileClass b → c.PointsInto file.text := by
    intro mode b hb hc
    exact pointsInto_of_linePass (Component.overlays_block hb) hc
  simp only [componentCandidates, List.mem_append, List.mem_flatMap, or_assoc] at h
  rcases h with ⟨b, hb, hc⟩ | ⟨b, hb, hc⟩ | hc | hc
  · exact hblock .script b (List.mem_append_left _ hb) hc
  · exact hblock .style b (List.mem_append_right _ hb) hc
  · exact pointsInto_of_residue (List.mem_append_left _ hc)
  · exact pointsInto_of_residue (List.mem_append_right _ hc)

theorem pointsInto_of_mem_candidates (h : c ∈ s.candidates file) : c.PointsInto file.text := by
  unfold candidates candidatesAs candidatesIn at h
  split at h
  · exact pointsInto_of_component h
  · exact pointsInto_of_linePass (Overlays.refl file.text) h
  · exact pointsInto_of_linePass (Overlays.refl file.text) h

/-- The findings of a file come from its accepted candidates, one from each. Every finding points into
its file. If it comes from a line rule and shows no spaces, the line it points at goes on with what it
shows. -/
theorem scan_located (s : Scanner) (file : SourceFile) :
    s.scan file = ((s.candidates file).filter Candidate.accepted).map Candidate.finding ∧
    ∀ f ∈ s.scan file, ∃ outer, Located file.text f.line f.column outer ∧
      ∀ c ∈ s.candidates file, c.accepted = true → c.finding = f → c.rule.isMultiline = false →
        ' ' ∉ f.matched → f.matched <+: outer.drop (f.column - 1) := by
  refine ⟨rfl, fun f hf => ?_⟩
  obtain ⟨c, hc, rfl⟩ := List.mem_map.mp hf
  obtain ⟨outer, hloc, -⟩ := pointsInto_of_mem_candidates (List.mem_filter.mp hc).1
  refine ⟨outer, hloc, fun c' hc' _ hfinding hline hsp => ?_⟩
  obtain ⟨outer', hloc', hpre⟩ := pointsInto_of_mem_candidates hc'
  -- Both candidates give the same finding, so they point at the same line.
  have hsame : c'.context.line = c.context.line := congrArg Finding.line hfinding
  have hcolumn : c'.column = c.column := congrArg Finding.column hfinding
  have hshown : c'.shown = c.shown := congrArg Finding.matched hfinding
  have houter : outer' = outer := by
    have h1 := hloc'.line_eq
    rw [hsame] at h1
    exact Option.some.inj (h1.symm.trans hloc.line_eq)
  rw [houter, hcolumn, hshown] at hpre
  exact hpre hline hsp

/-- A match behind a comment with a wide character, on the second line of a script. -/
theorem scan_located_behind_comment :
    let pattern : Pattern := ⟨"eval", .ofRegex (.text (Text.ofString "eval"))⟩
    let s : Scanner := ⟨⟨[.ofLine "no-eval" pattern], .none⟩, ⟨[], [], []⟩⟩
    let file : SourceFile := ⟨"a.js", Text.ofString "a\n/*é*/eval(b)", .script⟩
    let f : Finding := ⟨"a.js", 2, 6, "no-eval", .warning, .lint, Text.ofString "eval"⟩
    f ∈ s.scan file ∧
      (∃ c ∈ s.candidates file, c.accepted = true ∧ c.finding = f ∧ c.rule.isMultiline = false) ∧
      ' ' ∉ f.matched ∧
      ∃ outer, Located file.text f.line f.column outer ∧ f.matched <+: outer.drop (f.column - 1) := by
  intro pattern s file f
  have hf : f ∈ s.scan file := by decide +kernel
  have hc : ∃ c ∈ s.candidates file, c.accepted = true ∧ c.finding = f ∧ c.rule.isMultiline = false := by
    decide +kernel
  have hsp : ' ' ∉ f.matched := by decide
  obtain ⟨outer, hloc, hpre⟩ := (scan_located s file).2 f hf
  obtain ⟨c, hmem, hacc, hfinding, hline⟩ := hc
  exact ⟨hf, ⟨c, hmem, hacc, hfinding, hline⟩, hsp, outer, hloc, hpre c hmem hacc hfinding hline hsp⟩

end Scanner

end FrontLint
