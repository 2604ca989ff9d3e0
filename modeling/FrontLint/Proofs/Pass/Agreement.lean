/-
  FrontLint.Proofs.Pass.Agreement — the two passes over markup find a fixed text at the same places.

  One pass searches each cleaned line and counts columns in the line as it stands. The other searches the
  cleaned lines joined to one text, and looks up where its matches stand. A text without blanks does not
  reach over the end of a line, so both find the same. Proved:
  - `places_cleanFrom`: the matches in the joined lines are those in the lines, at the same places.
  - `LinePass.run_places` / `SpanPass.run_places`: what one rule finds, by the matches of its pattern.
  - `literal_places`: a rule for a fixed text, for lines or over lines, finds it at the same places.
-/

import FrontLint.Proofs.Pass.Spans
import FrontLint.Proofs.Pattern.Escape
import FrontLint.Proofs.Pattern.Literal
import FrontLint.Proofs.Scan.Inert

namespace FrontLint

open FrontLint.Text FrontLint.Strip

def Finding.lineCol (f : Finding) : LineCol := ⟨f.line, f.column⟩

/-- No match is silenced in a text without the marker of directives. -/
theorem not_silencedOver_of_not_infix {t : Text} (h : ¬ Directive.marker <:+: t) (m : Match) (id : String) :
    ¬ SilencedOver t.lines m id := by
  intro hs
  rcases hs with ⟨k, -, hnames⟩ | ⟨k, next, -, hnames⟩
  · exact not_names_of_not_infix h _ _ _ hnames
  · exact not_names_of_not_infix h _ _ _ hnames

/-! ## What one rule finds -/

/-- A rule for lines finds the matches of its pattern in each of them, if it runs and nothing silences it. -/
theorem LinePass.run_places {p : LinePass} {r : Rule} {ex : Exclusions} {lines : List Text}
    (hkind : r.kind = .line true) (hvalidator : r.validator = none)
    (hactive : RuleTable.isActive ⟨[r], ex⟩ p.mode p.fileClass r = true) (hquiet : ∀ i, ¬ Silenced lines i r.id)
    (hblank : ∀ u : Text, u.allBlank = true → r.pattern.findMatches u false = []) :
    (p.run ⟨[r], ex⟩ lines).map Finding.lineCol =
      (p.cleanLines lines).flatMap fun l => (r.pattern.findMatches l.cleaned false).map fun m =>
        ⟨p.offset + l.index + 1, l.raw.columnAt m.start⟩ := by
  have hrules : p.activeRules ⟨[r], ex⟩ = [r] := by
    simp [activeRules, RuleTable.lineRules, Rule.isMultiline, hkind, hactive]
  have hline : ∀ l, p.lineCandidates [r] (.ofLines lines) l =
      (r.pattern.findMatches l.cleaned false).map (p.candidate l r) := by
    intro l
    have hnot : ¬ (Suppressions.ofLines lines).silences l.index r.id = true := by
      rw [Suppressions.silences_ofLines]
      exact hquiet l.index
    have hrepeats : r.repeats = true := by simp [Rule.repeats, hkind]
    unfold lineCandidates
    split
    · rename_i h
      rw [hblank _ h]
      rfl
    · rw [List.flatMap_singleton, ruleCandidates, if_neg hnot, hrepeats]
      rfl
  have hfindings : ∀ c ∈ p.candidates ⟨[r], ex⟩ lines, c.rule.validator = none := by
    intro c hc
    rw [List.mem_singleton.mp (rule_mem_of_mem_candidates hc)]
    exact hvalidator
  rw [run, Candidate.findings_of_unvalidated hfindings, candidates, hrules]
  simp only [hline, List.map_flatMap, List.map_map]
  rfl

/-- A rule over lines finds the matches of its pattern in the cleaned text, if it runs and nothing silences
it. -/
theorem SpanPass.run_places {p : SpanPass} {r : Rule} {ex : Exclusions} {t : Text}
    (hkind : r.kind = .multiline none) (hvalidator : r.validator = none)
    (hactive : RuleTable.isActive ⟨[r], ex⟩ .markup p.fileClass r = true)
    (hquiet : ∀ m, ¬ SilencedOver t.lines m r.id) :
    (p.run ⟨[r], ex⟩ t).map Finding.lineCol =
      (r.pattern.findMatches (cleaned t) false).map fun m => t.lineCol m.start := by
  have hrules : p.activeRules ⟨[r], ex⟩ = [r] := by
    simp [activeRules, RuleTable.multilineRules, Rule.isMultiline, hkind, hactive]
  have hcandidates : p.candidates ⟨[r], ex⟩ t =
      (r.pattern.findMatches (cleaned t) false).map (p.candidate t r) := by
    rw [candidates, hrules, List.flatMap_singleton, ← List.filterMap_eq_map]
    refine List.filterMap_congr fun m hm => ?_
    refine (candidate?_eq_some (Pattern.findMatches_occurs hm)).mpr ⟨?_, hquiet m, rfl⟩
    intro companion h
    rw [hkind] at h
    cases h
  have hfindings : ∀ c ∈ p.candidates ⟨[r], ex⟩ t, c.rule.validator = none := by
    intro c hc
    rw [List.mem_singleton.mp (rule_mem_of_mem_candidates hc)]
    exact hvalidator
  rw [run, Candidate.findings_of_unvalidated hfindings, hcandidates, List.map_map, List.map_map]
  rfl

/-! ## Lines, and lines joined -/

section

variable {length? : Option Char → Text → Option Nat} {w t : Text}
  (hlength : ∀ before u, length? before u = if w <+: u then some w.length else none)

include hlength

/-- The matches in a line of the text, by their offsets in the text. -/
theorem places_line {i : Nat} {raw cleaned : Text} (hraw : t.lines[i]? = some raw) (hclean : Blanked raw cleaned)
    (before : Option Char) :
    (Match.allFrom length? before 0 (width (ended (t.lines.take i))) cleaned).map (fun m => t.lineCol m.start) =
      (Match.allFrom length? none 0 0 cleaned).map fun m => ⟨i + 1, raw.columnAt m.start⟩ := by
  have hafter := Match.allFrom_after length? none 0 (width (ended (t.lines.take i))) 0 cleaned
  rw [Nat.add_zero] at hafter
  rw [Match.allFrom_before hlength before none, hafter, List.map_map]
  refine List.map_congr_left fun m hm => ?_
  obtain ⟨a, b, hsplit, hstart, -⟩ := Match.allFrom_occurs hm
  have hwidth := hclean.width_eq
  rw [hsplit, width_append, width_append] at hwidth
  exact lineCol_line hraw (by omega)

/-- From line `i` on, the matches in the lines joined are those in the lines. -/
theorem places_cleanFrom {p : LinePass} (hskips : p.skips = []) (hw : w ≠ []) (hnewline : '\n' ∉ w) {i : Nat}
    {s : State} {rest : List Text} (hrest : t.lines.drop i = rest) (before : Option Char) :
    (Match.allFrom length? before 0 (width (ended (t.lines.take i)))
        (unlines ((stripLines p.mode rest s).map (·.1)))).map (fun m => t.lineCol m.start) =
      (p.cleanFrom i ⟨p.mode, s⟩ rest).flatMap fun l =>
        (Match.allFrom length? none 0 0 l.cleaned).map fun m => ⟨l.index + 1, l.raw.columnAt m.start⟩ := by
  induction rest generalizing i s before with
  | nil => simp [stripLines, unlines, LinePass.cleanFrom, Match.allFrom, hlength, hw]
  | cons raw rest ih =>
    obtain ⟨hraw, hnext⟩ := next_of_drop hrest
    have hnot : ¬ p.Skips i := by simp [LinePass.Skips, hskips]
    have hclean := strip_blanked p.mode raw s
    have hline := places_line hlength hraw hclean before
    have hlater := ih (s := (strip p.mode raw s).2) hnext (some '\n')
    have hoffset : width (ended (t.lines.take (i + 1))) =
        width (ended (t.lines.take i)) + width (strip p.mode raw s).1 + 1 := by
      rw [List.take_add_one, hraw, Option.toList_some, ended_append, width_append, ended_cons, width_append,
        hclean.width_eq]
      rfl
    rw [LinePass.cleanFrom_read hnot, List.flatMap_cons, ← hline, ← hlater]
    cases rest with
    | nil => simp [stripLines, unlines, Match.allFrom, hlength, hw]
    | cons raw' rest =>
      have hjoin : unlines ((stripLines p.mode (raw :: raw' :: rest) s).map (·.1)) = (strip p.mode raw s).1 ++
          '\n' :: unlines ((stripLines p.mode (raw' :: rest) (strip p.mode raw s).2).map (·.1)) := rfl
      rw [hjoin, Match.allFrom_line hlength hw hnewline before _ (Nat.zero_le _), List.map_append, hoffset]

end

/-! ## The passes -/

/-- A text without blanks, written as a pattern, is a pattern unless it is too large. In a text without
directives, a rule for lines with this pattern and the same rule over lines find something at the same
places, in the same order. -/
theorem literal_places {t w : Text} (ht : ¬ Directive.marker <:+: t) (hw : w ≠ [])
    (hblank : ∀ c ∈ w, isBlank c = false) :
    (32 * width w + 208 ≤ Pattern.sizeLimit → ∃ q, Pattern.ofString (String.ofList (Pattern.escape w)) = .ok q) ∧
    ∀ q, Pattern.ofString (String.ofList (Pattern.escape w)) = .ok q →
      ∀ (r : Rule) (ex : Exclusions) (path : String) (c : FileClass),
        r.pattern = q → r.kind = .line true → r.validator = none →
        ((LinePass.whole path .markup c).run ⟨[r], ex⟩ t.lines).map Finding.lineCol =
          (SpanPass.run ⟨path, c⟩ ⟨[{ r with kind := .multiline none }], ex⟩ t).map Finding.lineCol := by
  refine ⟨fun hsize => ⟨_, by rw [Pattern.ofString_escape hw, if_pos hsize]⟩, ?_⟩
  intro q hq r ex path c hr hkind hvalidator
  have hlength := Pattern.Program.matchLength?_text w
  have hmatches : ∀ u, r.pattern.findMatches u false =
      Match.allFrom (Pattern.Program.ofRegex (.text w)).matchLength? none 0 0 u := by
    intro u
    rw [hr, Pattern.findMatches_eq, Pattern.program_of_escape hw hq]
    rfl
  have hnewline : '\n' ∉ w := by
    intro h
    cases hblank '\n' h
  have hnone : ∀ u : Text, u.allBlank = true → r.pattern.findMatches u false = [] := by
    intro u hu
    obtain ⟨x, hx⟩ := List.exists_mem_of_ne_nil w hw
    rw [hmatches]
    refine Match.allFrom_eq_nil hlength hx (fun hmem => ?_) none 0 0
    have hxu := List.all_eq_true.mp hu x hmem
    rw [hblank x hx] at hxu
    cases hxu
  by_cases hactive : RuleTable.isActive ⟨[r], ex⟩ .markup c r = true
  · have hline := LinePass.run_places (p := LinePass.whole path .markup c) hkind hvalidator hactive
      (fun i => not_silenced_of_not_infix ht i r.id) hnone
    have hspan := SpanPass.run_places (p := ⟨path, c⟩) (r := { r with kind := .multiline none }) rfl hvalidator
      hactive (fun m => not_silencedOver_of_not_infix ht m r.id)
    have hplaces := places_cleanFrom (t := t) (p := LinePass.whole path .markup c) hlength rfl hw hnewline
      (s := .neutral) List.drop_zero none
    simp only [hmatches, LinePass.whole, Nat.zero_add] at hline hspan hplaces
    rw [LinePass.whole, hline, hspan]
    exact hplaces.symm
  · rw [LinePass.run, SpanPass.run,
      Candidate.findings_of_inactive (fun _ => LinePass.runs_of_mem_candidates) hactive,
      Candidate.findings_of_inactive (fun _ => SpanPass.runs_of_mem_candidates) hactive]

/-- A text of two lines with a wide character and a comment, and a pattern with a dot. -/
theorem literal_places_two_lines :
    let w := Text.ofString "a.b"
    let t := Text.ofString "é a.b<!-- a.b\n--> a.b aab a.b"
    let pattern : Pattern := ⟨"a\\.b", .ofRegex (.text w)⟩
    let rule : Rule := { Rule.ofLine "no-ab" pattern with scope := .markup }
    let c : FileClass := ⟨false, false, false, true⟩
    let places : List LineCol := [⟨1, 3⟩, ⟨2, 5⟩, ⟨2, 13⟩]
    ¬ Directive.marker <:+: t ∧ Pattern.ofString (String.ofList (Pattern.escape w)) = .ok pattern ∧
      ((LinePass.whole "a.svelte" .markup c).run ⟨[rule], .none⟩ t.lines).map Finding.lineCol = places ∧
      (SpanPass.run ⟨"a.svelte", c⟩ ⟨[{ rule with kind := .multiline none }], .none⟩ t).map Finding.lineCol =
        places := by
  intro w t pattern rule c places
  have ht : ¬ Directive.marker <:+: t := by decide +kernel
  have hq : Pattern.ofString (String.ofList (Pattern.escape w)) = .ok pattern := by
    rw [Pattern.ofString_escape (by decide), if_pos (by decide)]
    rfl
  have hline : ((LinePass.whole "a.svelte" .markup c).run ⟨[rule], .none⟩ t.lines).map Finding.lineCol = places := by
    decide +kernel
  have hblank : ∀ x ∈ w, isBlank x = false := by
    intro x hx
    have hall : w.all (!isBlank ·) = true := by decide
    simpa using List.all_eq_true.mp hall x hx
  refine ⟨ht, hq, hline, ?_⟩
  obtain ⟨-, hagree⟩ := literal_places ht (by decide) hblank
  rw [← hagree pattern hq rule .none "a.svelte" c rfl rfl rfl]
  exact hline

end FrontLint
