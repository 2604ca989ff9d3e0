/-
  FrontLint.Proofs.Pass.Skipping — when a pass that skips lines finds what it would find without skipping.

  A skipped line is not read, and nothing is open behind it. Proved:
  - `candidates_unskipped`: skipping changes nothing if the skipped lines are blank, and behind each of
    them nothing is open or all is blank.
  - `mem_run_char`: a rule for one character finds it at the places outside comments, so from what is
    found it can be told which lines a pass reads and what it takes for open there.
-/

import FrontLint.Proofs.Pass.Hits
import FrontLint.Proofs.Pattern.Literal
import FrontLint.Proofs.Strip.Markup
import Mathlib.Data.Fintype.EquivFin

namespace FrontLint

open FrontLint.Text FrontLint.Strip

/-- A blank line stays blank. -/
theorem Strip.Blanked.allBlank {raw cleaned : Text} (h : Blanked raw cleaned) (hb : raw.allBlank = true) :
    cleaned.allBlank = true := by
  simp only [Text.allBlank, List.all_eq_true] at hb ⊢
  induction h with
  | nil => exact hb
  | keep c _ ih =>
    rw [List.forall_mem_cons] at hb ⊢
    exact ⟨hb.1, ih hb.2⟩
  | blank c _ ih =>
    intro d hd
    rcases List.mem_append.mp hd with hd | hd
    · rw [mem_spaces hd]
      rfl
    · exact ih (List.forall_mem_cons.mp hb).2 d hd

namespace LinePass

variable {p : LinePass} {lines : List Text}

/-- The same pass over all lines. -/
def unskipped (p : LinePass) : LinePass := { p with skips := [] }

theorem not_skips_unskipped (i : Nat) : ¬ p.unskipped.Skips i := by simp [Skips, unskipped]

/-- Without skipped lines, what is open before a line is what all lines above it leave open. -/
theorem openAt_unskipped {i : Nat} {s : State} :
    p.unskipped.OpenAt lines i s ↔ s = openAfter p.mode .neutral (lines.take i) := by
  have hrun : p.unskipped.OpenAt lines i (openAfter p.mode .neutral (lines.take i)) :=
    ⟨0, ⟨Nat.zero_le _, fun j _ _ => not_skips_unskipped j, .inl rfl⟩, rfl⟩
  constructor
  · intro h
    exact h.unique hrun
  · rintro rfl
    exact hrun

theorem openAfter_take_succ {mode : Mode} {i : Nat} {raw : Text} (h : lines[i]? = some raw) :
    openAfter mode .neutral (lines.take (i + 1)) =
      (strip mode raw (openAfter mode .neutral (lines.take i))).2 := by
  rw [List.take_add_one, h, Option.toList_some, openAfter_concat]

/-! ## Skipping what does not matter -/

/-- Skipped lines are blank, and behind each of them nothing is open or all is blank. -/
def SkipsBlank (p : LinePass) (lines : List Text) : Prop :=
  ∀ k raw, p.Skips k → lines[k]? = some raw → raw.allBlank = true ∧
    (openAfter p.mode .neutral (lines.take (k + 1)) = .neutral ∨
      ∀ l ∈ lines.drop (k + 1), l.allBlank = true)

theorem lineCandidates_of_blank {rules : List Rule} {silenced : Suppressions} {i : Nat} {raw : Text}
    (h : raw.allBlank = true) (mode : Mode) (s : State) :
    p.lineCandidates rules silenced ⟨i, raw, (strip mode raw s).1⟩ = [] := by
  rw [lineCandidates, (strip_blanked mode raw s).allBlank h, if_pos rfl]

/-- From line `i` on, with the same open in both passes or with blank lines only. -/
theorem flatMap_cleanFrom_unskipped (hskips : p.SkipsBlank lines) {rules : List Rule}
    {silenced : Suppressions} {i : Nat} {s s' : State} {rest : List Text} (hrest : lines.drop i = rest)
    (hs' : s' = openAfter p.mode .neutral (lines.take i)) (hs : s = s' ∨ ∀ l ∈ rest, l.allBlank = true) :
    (p.cleanFrom i ⟨p.mode, s⟩ rest).flatMap (p.lineCandidates rules silenced) =
      (p.unskipped.cleanFrom i ⟨p.mode, s'⟩ rest).flatMap (p.lineCandidates rules silenced) := by
  induction rest generalizing i s s' with
  | nil => rfl
  | cons raw rest ih =>
    obtain ⟨hraw, hnext⟩ := next_of_drop hrest
    have hopen : (strip p.mode raw s').2 = openAfter p.mode .neutral (lines.take (i + 1)) := by
      rw [openAfter_take_succ hraw, hs']
    rw [cleanFrom_read (not_skips_unskipped i), List.flatMap_cons]
    by_cases hskip : p.Skips i
    · obtain ⟨hblank, hbehind⟩ := hskips i raw hskip hraw
      rw [cleanFrom_skip hskip, lineCandidates_of_blank hblank, List.nil_append]
      refine ih hnext hopen ?_
      rw [hopen, ← hnext]
      exact hbehind.imp_left Eq.symm
    · rw [cleanFrom_read hskip, List.flatMap_cons]
      rcases hs with rfl | hblank
      · rw [ih hnext hopen (.inl rfl)]
      · have hhead := hblank raw List.mem_cons_self
        have htail : ∀ l ∈ rest, l.allBlank = true := fun l hl => hblank l (List.mem_cons_of_mem _ hl)
        rw [lineCandidates_of_blank hhead, lineCandidates_of_blank hhead, ih hnext hopen (.inr htail)]

/-- Skipping blank lines changes nothing, if nothing is open behind them or all is blank there. -/
theorem candidates_unskipped (hskips : p.SkipsBlank lines) (t : RuleTable) :
    p.candidates t lines = p.unskipped.candidates t lines :=
  flatMap_cleanFrom_unskipped hskips List.drop_zero rfl (.inl rfl)

/-! ## What a rule for one character finds -/

/-- Directives name finitely many rules. -/
theorem exists_unsilenced (lines : List Text) : ∃ id, ∀ i, ¬ Silenced lines i id := by
  obtain ⟨id, hid⟩ := Infinite.exists_notMem_finset (lines.flatMap fun l =>
    (LineDirectives.ofLine l).sameLine ++ (LineDirectives.ofLine l).nextLine).toFinset
  have hnames : ∀ next k, ¬ Names lines next k id := by
    rintro next k ⟨l, hl, hmem⟩
    apply hid
    rw [List.mem_toFinset, List.mem_flatMap]
    refine ⟨l, List.mem_of_getElem? hl, ?_⟩
    cases next
    · exact List.mem_append_left _ hmem
    · exact List.mem_append_right _ hmem
  refine ⟨id, fun i hi => ?_⟩
  rcases hi with h | ⟨k, -, h⟩
  · exact hnames _ _ h
  · exact hnames _ _ h

/-- A rule for the character `x`. -/
def charRule (id : String) (x : Char) : Rule := .ofLine id ⟨"", .ofRegex (.text [x])⟩

def charTable (id : String) (x : Char) : RuleTable := ⟨[charRule id x], .none⟩

theorem runs_charRule (p : LinePass) (id : String) (x : Char) : p.Runs (charTable id x) 0 (charRule id x) :=
  ⟨rfl, rfl, rfl, by simp [charTable, Exclusions.none, Exclusions.tags]⟩

/-- What the rule finds at column `j` of line `k`. -/
def charFinding (p : LinePass) (id : String) (x : Char) (k j : Nat) : Finding :=
  ⟨p.file, p.offset + k + 1, j + 1, id, .warning, .lint, [x]⟩

/-- A pass over markup reads character `x` at column `j` of line `k`, outside comments. -/
structure Shows (p : LinePass) (lines : List Text) (k j : Nat) (x : Char) : Prop where
  unskipped : ¬ p.Skips k
  exists_line : ∃ raw s, lines[k]? = some raw ∧ p.OpenAt lines k s ∧ raw[j]? = some x ∧
    (commented s.inComment raw).1[j]? = some false

/-- A rule for one character finds it wherever it stands outside comments. -/
theorem mem_run_char (hmode : p.mode = .markup) (hlines : ∀ l ∈ lines, '\n' ∉ l) {x : Char}
    (hx : isBlank x = false) {id : String} (hid : ∀ i, ¬ Silenced lines i id) {k j : Nat} :
    p.charFinding id x k j ∈ p.run (charTable id x) lines ↔ p.Shows lines k j x := by
  rw [mem_run]
  constructor
  · rintro ⟨h, hrep⟩
    generalize hf : p.charFinding id x k j = f at hrep
    obtain @⟨raw, cleaned, r, column, hl, -, -, -, hm, -, hc⟩ := hrep
    simp only [charFinding, Finding.mk.injEq, true_and] at hf
    obtain ⟨hline, hcolumn, -, -, -, htext⟩ := hf
    obtain rfl : k = h.line := by omega
    obtain ⟨a, b, hclean, hstart, -⟩ := Pattern.findMatches_occurs hm
    obtain ⟨s, hs, hcleaned⟩ := hl.cleaned_eq
    simp only at hcleaned
    rw [hmode, strip_markup (hlines _ (List.mem_of_getElem? hl.raw_eq)), hclean, ← htext,
      List.append_assoc] at hcleaned
    obtain ⟨hget, hmark⟩ := cover_split hx hcleaned.symm
    have hj : j = raw.charsBefore (width a) := by
      have := hc.unique (columnOf_columnAt raw h.found.start)
      rw [columnAt, hstart, Nat.zero_add] at this
      omega
    rw [← hj] at hget hmark
    exact ⟨hl.unskipped, raw, s, hl.raw_eq, hs, hget, hmark⟩
  · rintro ⟨hskip, raw, s, hraw, hopen, hget, hmark⟩
    obtain ⟨u, v, rfl, rfl⟩ := exists_append_of_getElem? hget
    obtain ⟨before, after, hmarks, hlen⟩ := exists_append_of_getElem? hmark
    have hclean : (strip p.mode (u ++ x :: v) s).1 = cover u before ++ x :: cover v after := by
      rw [hmode, strip_markup (hlines _ (List.mem_of_getElem? hraw)), hmarks, cover_append hlen.symm,
        cover_unmarked]
    have hfound := Pattern.mem_findMatches_char "" x (cover u before) (cover v after)
    have hcolumn : columnAt (u ++ x :: v) (width (cover u before)) = u.length + 1 := by
      rw [columnAt, width_cover hlen, charsBefore_width_append]
    have hat := columnOf_columnAt (u ++ x :: v) (width (cover u before))
    rw [hcolumn] at hat
    have hcleans : p.Cleans lines ⟨k, u ++ x :: v, cover u before ++ x :: cover v after⟩ :=
      ⟨hskip, hraw, s, hopen, hclean.symm⟩
    exact ⟨⟨k, 0, _⟩, Reports.intro (h := ⟨k, 0, _⟩) (r := charRule id x) hcleans ⟨x, by simp, hx⟩
      (p.runs_charRule id x) (hid k) hfound (fun v hv => by cases hv) hat⟩

/-- If skipping changes nothing for any rules, the same characters are read outside comments. -/
theorem shows_unskipped_iff (hmode : p.mode = .markup) (hlines : ∀ l ∈ lines, '\n' ∉ l)
    (h : ∀ t, p.run t lines = p.unskipped.run t lines) {x : Char} (hx : isBlank x = false) {k j : Nat} :
    p.Shows lines k j x ↔ p.unskipped.Shows lines k j x := by
  obtain ⟨id, hid⟩ := exists_unsilenced lines
  rw [← mem_run_char hmode hlines hx hid, ← mem_run_char (p := p.unskipped) hmode hlines hx hid, h]
  rfl

end LinePass

end FrontLint
