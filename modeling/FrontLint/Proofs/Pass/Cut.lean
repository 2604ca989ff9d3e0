/-
  FrontLint.Proofs.Pass.Cut — where a pass can be cut in two.

  Behind some lines, a pass goes on with what they leave open and with the directives for the next line on
  the last of them. Nothing else crosses from one line to the next. Proved:
  - `run_append`: a pass over more lines finds what it finds in the first ones, and then what it finds in
    the rest with what is open there.
  - `findingsBehind_of_neutral`: with nothing open, the rest is read as in a pass of its own, but for the
    rules that are named above its first line.
  - `probe_iff`: if a pass can be cut, a rule for one character does not tell a line behind the cut from
    the same line alone.
  - `run_cut_iff`: whatever follows and whatever the rules are, a pass can be cut behind lines that leave
    nothing open and end in one without directives for the next line, and nowhere else.
-/

import FrontLint.Proofs.Pass.Runs

namespace FrontLint

open FrontLint.Text FrontLint.Strip

/-! ## What lines leave behind -/

/-- A rule is named above what follows some lines if the last of them names it for the next line. -/
theorem namedAbove_append_iff {a b : List Text} {id : String} :
    NamedAbove (a ++ b) a.length id ↔ ∃ l, a.getLast? = some l ∧ id ∈ (LineDirectives.ofLine l).nextLine := by
  rcases List.eq_nil_or_concat a with rfl | ⟨a, l, rfl⟩
  · simp [NamedAbove]
  · simp [NamedAbove, Names]

/-- Only scripts leave a template open. -/
theorem Strip.inTemplate_strip {mode : Mode} (h : mode ≠ .script) (line : Text) (s : State) :
    (strip mode line s).2.inTemplate = false := by
  cases mode with
  | script => exact absurd rfl h
  | style =>
    show (styleFrom s.inComment none [] line).2.inTemplate = false
    fun_induction styleFrom s.inComment none [] line <;> first | rfl | assumption
  | markup =>
    show (markupFrom s.inComment [] line).2.inTemplate = false
    fun_induction markupFrom s.inComment [] line <;> first | rfl | assumption

theorem Strip.inTemplate_openAfter {mode : Mode} (h : mode ≠ .script) (ls : List Text) :
    (openAfter mode .neutral ls).inTemplate = false := by
  rcases List.eq_nil_or_concat ls with rfl | ⟨ls, l, rfl⟩
  · rfl
  · rw [List.concat_eq_append, openAfter_concat]
    exact inTemplate_strip h l _

namespace LinePass

variable {p : LinePass}

/-! ## The lines behind a cut -/

theorem part_left (a b : List Text) : ((a ++ b).take a.length).drop 0 = a := by simp

theorem part_right (a b : List Text) : ((a ++ b).take (a ++ b).length).drop a.length = b := by
  rw [List.take_length, List.drop_left]

/-- The first lines are those of a pass of their own, and the rest is read with what they leave open. -/
theorem cleanLines_append (p : LinePass) (a b : List Text) :
    p.unskipped.cleanLines (a ++ b) = p.runLines (a ++ b) (0, a.length) ++
      p.unskipped.cleanFrom a.length ⟨p.mode, openAfter p.mode .neutral a⟩ b := by
  have hclean := cleanFrom_append (p := p.unskipped) (q := p.unskipped.movedBy 0) (n := 0) (k := 0)
    (not_skips_unskipped (p := p)) (.start p.mode) a b fun j _ _ => not_skips_unskipped _
  rw [Nat.add_zero, Nat.zero_add] at hclean
  rw [runLines, part_left]
  exact hclean

/-- With nothing open, the rest too is read as in a pass of its own. -/
theorem cleanFrom_behind (p : LinePass) (a b : List Text) :
    p.unskipped.cleanFrom a.length (.start p.mode) b = p.runLines (a ++ b) (a.length, (a ++ b).length) := by
  have hclean := cleanFrom_append (p := p.unskipped) (q := p.unskipped.movedBy a.length) (n := a.length) (k := 0)
    (not_skips_unskipped (p := p)) (.start p.mode) b [] fun j _ _ => not_skips_unskipped _
  rw [Nat.add_zero, List.append_nil, cleanFrom, List.append_nil] at hclean
  rw [runLines, part_right]
  exact hclean

/-! ## The findings behind a cut -/

/-- What a pass finds in the lines `b` that follow the lines `a`, with what these leave open. -/
def findingsBehind (p : LinePass) (t : RuleTable) (a b : List Text) : List Finding :=
  Candidate.findings ((p.unskipped.cleanFrom a.length ⟨p.mode, openAfter p.mode .neutral a⟩ b).flatMap
    (p.lineCandidates (p.activeRules t) (.ofLines (a ++ b))))

theorem run_append (p : LinePass) (t : RuleTable) (a b : List Text) :
    p.unskipped.run t (a ++ b) = p.unskipped.run t a ++ p.findingsBehind t a b := by
  have hfirst : (p.runLines (a ++ b) (0, a.length)).flatMap
      (p.lineCandidates (p.activeRules t) (.ofLines (a ++ b))) = p.unskipped.candidates t a := by
    rw [candidates_runLines (by simp), part_left, List.filter_eq_self.mpr]
    · rfl
    · intro c _
      exact decide_eq_true fun ⟨_, k, hk, _⟩ => by omega
  have hall : p.unskipped.candidates t (a ++ b) = p.unskipped.candidates t a ++
      (p.unskipped.cleanFrom a.length ⟨p.mode, openAfter p.mode .neutral a⟩ b).flatMap
        (p.lineCandidates (p.activeRules t) (.ofLines (a ++ b))) := by
    rw [← hfirst, ← List.flatMap_append, ← cleanLines_append]
    rfl
  rw [run, hall, Candidate.findings, List.filter_append, List.map_append]
  rfl

/-- With nothing open, what follows is found as in a pass of its own, unless it is named above. -/
theorem findingsBehind_of_neutral {a : List Text} (h : openAfter p.mode .neutral a = .neutral) (t : RuleTable)
    (b : List Text) :
    p.findingsBehind t a b =
      ((p.unskipped.movedBy a.length).run t b).filter fun f => p.HeardBelow (a ++ b) a.length f := by
  have hlines := p.cleanFrom_behind a b
  rw [findingsBehind, h]
  simp only [Stripper.start] at hlines
  rw [hlines, candidates_runLines (Nat.le_refl _), part_right]
  exact Candidate.findings_filter (fun f => p.HeardBelow (a ++ b) a.length f) _

theorem findingsBehind_of_quiet {a : List Text} (hopen : openAfter p.mode .neutral a = .neutral)
    (hquiet : ∀ l, a.getLast? = some l → (LineDirectives.ofLine l).nextLine = []) (t : RuleTable) (b : List Text) :
    p.findingsBehind t a b = (p.unskipped.movedBy a.length).run t b := by
  rw [findingsBehind_of_neutral hopen, List.filter_eq_self]
  intro f _
  refine decide_eq_true fun ⟨_, hnamed⟩ => ?_
  obtain ⟨l, hl, hid⟩ := namedAbove_append_iff.mp hnamed
  rw [hquiet l hl] at hid
  simp at hid

/-! ## What a rule for one character tells -/

theorem activeRules_charTable (p : LinePass) (id : String) (x : Char) :
    p.activeRules (charTable id x) = [charRule id x] := by
  simp [activeRules, charTable, RuleTable.lineRules, RuleTable.isActive, charRule, Rule.ofLine, Rule.isMultiline,
    Scope.applies, Exclusions.excludes, Exclusions.none, Exclusions.tags]

theorem findMatches_char_eq_nil {x : Char} {t : Text} :
    Pattern.findMatches ⟨"", .ofRegex (.text [x])⟩ t false = [] ↔ x ∉ t := by
  constructor
  · intro h hx
    obtain ⟨a, b, rfl⟩ := List.append_of_mem hx
    have hfound := Pattern.mem_findMatches_char "" x a b
    rw [h] at hfound
    simp at hfound
  · intro hx
    rw [Pattern.findMatches_eq]
    exact Match.allFrom_eq_nil (Pattern.Program.matchLength?_text [x]) List.mem_cons_self hx _ _ _

/-- A rule for one character finds it in a cleaned line, unless it is silenced there. -/
theorem findings_char_eq_nil {x : Char} (hx : isBlank x = false) {id : String} {silenced : Suppressions}
    {l : CleanLine} :
    Candidate.findings (p.lineCandidates (p.activeRules (charTable id x)) silenced l) = [] ↔
      x ∉ l.cleaned ∨ silenced.silences l.index id = true := by
  rw [activeRules_charTable, lineCandidates]
  split
  · rename_i hblank
    have hno : x ∉ l.cleaned := by
      intro hmem
      rw [allBlank, List.all_eq_true] at hblank
      rw [hblank x hmem] at hx
      cases hx
    simp [Candidate.findings, hno]
  · rw [List.flatMap_singleton, ruleCandidates]
    split
    · rename_i hsilenced
      have : silenced.silences l.index id = true := hsilenced
      simp [Candidate.findings, this]
    · rename_i hheard
      have hheard : ¬ silenced.silences l.index id = true := hheard
      rw [Candidate.findings_of_unvalidated (by simp [candidate, charRule, Rule.ofLine]), List.map_eq_nil_iff,
        List.map_eq_nil_iff, or_iff_left hheard]
      exact findMatches_char_eq_nil

/-- What a rule for one character tells of a line that follows others. -/
theorem findingsBehind_char_eq_nil {x : Char} (hx : isBlank x = false) {id : String} {a : List Text} {l : Text} :
    p.findingsBehind (charTable id x) a [l] = [] ↔
      x ∉ (strip p.mode l (openAfter p.mode .neutral a)).1 ∨ Silenced (a ++ [l]) a.length id := by
  rw [findingsBehind, cleanFrom_read (not_skips_unskipped _), cleanFrom, List.flatMap_singleton,
    findings_char_eq_nil hx, Suppressions.silences_ofLines]

/-! ## Cuts -/

/-- Two lines that a state, other than that with nothing open, does not leave as they are. -/
theorem eq_neutral_of_probes {mode : Mode} {s : State} (htemplate : mode ≠ .script → s.inTemplate = false)
    (h : ∀ l, l = ['x'] ∨ l = ['`', '/', '*', 'x'] → ('x' ∈ (strip mode l s).1 ↔ 'x' ∈ (strip mode l .neutral).1)) :
    s = .neutral := by
  obtain ⟨inComment, inTemplate⟩ := s
  have hcomment : inComment = false := by
    have hprobe := h ['x'] (.inl rfl)
    revert hprobe
    cases mode <;> cases inComment <;> cases inTemplate <;> decide
  subst hcomment
  cases mode with
  | script =>
    have hprobe := h _ (.inr rfl)
    revert hprobe
    cases inTemplate <;> decide
  | style => exact congrArg (State.mk false) (htemplate (by decide))
  | markup => exact congrArg (State.mk false) (htemplate (by decide))

/-- Behind no lines, there is the whole pass. -/
theorem findingsBehind_nil (p : LinePass) (t : RuleTable) (b : List Text) :
    p.findingsBehind t [] b = p.unskipped.run t b := by
  have h := p.run_append t [] b
  rw [List.nil_append] at h
  exact h.symm

/-- A rule for one character that finds something in a line behind others finds something in it alone. -/
theorem probe_iff {a : List Text} (h : ∀ t b, p.findingsBehind t a b = (p.unskipped.movedBy a.length).run t b)
    (id : String) {l : Text} (hl : Directive.readAll 0 l = []) :
    'x' ∉ (strip p.mode l (openAfter p.mode .neutral a)).1 ∨ Silenced (a ++ [l]) a.length id ↔
      'x' ∉ (strip p.mode l .neutral).1 := by
  have hx : isBlank 'x' = false := by decide
  have hquiet : ¬ Silenced [l] 0 id := by
    rintro (hnames | ⟨k, hk, -⟩)
    · obtain ⟨l', hl', d, hd, -⟩ := names_iff.mp hnames
      obtain rfl : l = l' := by simpa using hl'
      rw [hl] at hd
      simp at hd
    · omega
  have halone : (p.movedBy a.length).findingsBehind (charTable id 'x') [] [l] = [] ↔ _ :=
    findingsBehind_char_eq_nil hx
  rw [findingsBehind_nil, List.nil_append, List.length_nil, or_iff_left hquiet] at halone
  rw [← findingsBehind_char_eq_nil hx, h]
  exact halone

/-- A pass can be cut behind some lines, whatever follows and whatever the rules are, iff they leave nothing open
and the last of them has no directive for the next line. -/
theorem run_cut_iff (p : LinePass) (a : List Text) :
    (∀ t b, p.unskipped.run t (a ++ b) = p.unskipped.run t a ++ (p.unskipped.movedBy a.length).run t b) ↔
      openAfter p.mode .neutral a = .neutral ∧
        ∀ l, a.getLast? = some l → (LineDirectives.ofLine l).nextLine = [] := by
  have hbehind : ∀ t b,
      p.unskipped.run t (a ++ b) = p.unskipped.run t a ++ (p.unskipped.movedBy a.length).run t b ↔
        p.findingsBehind t a b = (p.unskipped.movedBy a.length).run t b := by
    intro t b
    rw [run_append, List.append_cancel_left_eq]
  simp only [hbehind]
  constructor
  · intro h
    constructor
    · -- A state is told by what it leaves of two lines, and the rule must be one that no directive names.
      refine eq_neutral_of_probes (fun hmode => inTemplate_openAfter hmode a) fun l hl => ?_
      have hplain : Directive.readAll 0 l = [] := by
        rcases hl with rfl | rfl <;> decide
      obtain ⟨id, hid⟩ := exists_unsilenced (a ++ [l])
      have hprobe := probe_iff h id hplain
      rw [or_iff_left (hid _)] at hprobe
      exact not_iff_not.mp hprobe
    · -- A rule that the last line names is not heard below it, but it is in a pass of its own.
      intro l hl
      refine List.eq_nil_iff_forall_not_mem.mpr fun id hid => ?_
      have hsilenced : Silenced (a ++ [['x']]) a.length id :=
        .inr (namedAbove_append_iff.mpr ⟨l, hl, hid⟩)
      have hfound : 'x' ∈ (strip p.mode ['x'] .neutral).1 := by cases p.mode <;> decide
      exact (probe_iff h id (by decide)).mp (.inr hsilenced) hfound
  · rintro ⟨hopen, hquiet⟩ t b
    exact findingsBehind_of_quiet hopen hquiet t b

end LinePass

end FrontLint
