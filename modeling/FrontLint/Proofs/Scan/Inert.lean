/-
  FrontLint.Proofs.Scan.Inert — what is written in the comments of scripts and style sheets does not
  matter to a scan.

  `RetouchedText d a b` says that `b` is `a` with characters inside comments replaced by others with
  as many bytes, on as many lines, and no block comment closed anew. Proved:
  - `RetouchedText.breaks_eq` / `RetouchedText.retouched`: then the lines of the two texts correspond,
    each a retouched line.
  - `RetouchedText.strip_eq`: they are cleaned to the same lines.
  - `scan_retouched`: so, if there are no directives in them, the two texts have the same findings.
-/

import FrontLint.Proofs.Directive.Reading
import FrontLint.Proofs.Directive.Silence
import FrontLint.Proofs.Pass.Cleaning
import FrontLint.Proofs.Strip.Retouch
import FrontLint.Scan.Basic

namespace FrontLint

open FrontLint.Text FrontLint.Strip

namespace Strip

/-- What is open before line `n` of a text. -/
def openBefore (d : Dialect) (t : Text) (n : Nat) : State := openAfter d.mode .neutral (t.lines.take n)

/-- Character `i` of a text stands in a comment, between what opens and what closes it. -/
def InComment (d : Dialect) (t : Text) (i : Nat) : Prop :=
  ∃ raw, t.lines[(t.place i).line]? = some raw ∧
    Inside d (openBefore d t (t.place i).line) raw (t.place i).column

/-- Character `i` of a text stands in block comment `g`, behind what opens it. -/
def InBlockComment (d : Dialect) (t : Text) (g : Segment) (i : Nat) : Prop :=
  g.shape = .blockComment ∧ ∃ raw, t.lines[(t.place i).line]? = some raw ∧
    Behind d (openBefore d t (t.place i).line) raw g (t.place i).column

/-- `b` is `a` with characters inside comments replaced, and no block comment closed anew. -/
structure RetouchedText (d : Dialect) (a b : Text) : Prop where
  lines_eq : b.lines.length = a.lines.length
  widths : SameWidths a b
  inside : ∀ (i : Nat) (x y : Char), a[i]? = some x → b[i]? = some y → x ≠ y → InComment d a i
  no_close : ∀ g i, InBlockComment d a g i → InBlockComment d a g (i + 1) →
    b[i]? = some '*' → b[i + 1]? = some '/' → a[i]? = some '*' ∧ a[i + 1]? = some '/'

/-! ## Lines -/

theorem Inside.lt_length {d : Dialect} {s : State} {raw : Text} {j : Nat} (h : Inside d s raw j) :
    j < raw.length := by
  obtain ⟨g, start, opening, ⟨before, after, hall, -, rfl, -⟩, -, hlt⟩ := h
  rw [← hall.flatMap_text, List.flatMap_append, List.flatMap_cons, List.length_append, List.length_append]
  omega

theorem not_inComment_newline {d : Dialect} {t : Text} {i : Nat} (h : t[i]? = some '\n') :
    ¬ InComment d t i := by
  rintro ⟨raw, hline, hin⟩
  have hlt := hin.lt_length
  have hat : t.at? (t.place i) = some raw[(t.place i).column] := by
    simp only [at?, hline, Option.bind_some]
    exact List.getElem?_eq_getElem hlt
  obtain ⟨j, hj, hplace, hne⟩ := exists_place_of_at? hat
  obtain ⟨hi, -⟩ := List.getElem?_eq_some_iff.mp h
  obtain ⟨hj', -⟩ := List.getElem?_eq_some_iff.mp hj
  have hij := place_inj (Nat.le_of_lt hj') (Nat.le_of_lt hi) hplace
  rw [hij, h] at hj
  exact hne (Option.some.inj hj).symm

/-- Texts with as many newlines, of which one has a newline wherever the other has one. -/
theorem breaks_eq_of_kept {a b : Text} (h : List.Forall₂ (fun x y => x = '\n' → y = '\n') a b) :
    newlines a ≤ newlines b ∧ (newlines b ≤ newlines a → breaks b = breaks a) := by
  induction h with
  | nil => exact ⟨Nat.le_refl _, fun _ => rfl⟩
  | @cons x y a b hxy _ ih =>
    obtain ⟨hle, hbreaks⟩ := ih
    by_cases hx : x = '\n'
    · subst hx
      rw [hxy rfl, newlines_cons_newline, newlines_cons_newline]
      refine ⟨by omega, fun h => ?_⟩
      rw [breaks, breaks, List.map_cons, List.map_cons]
      exact congrArg _ (hbreaks (by omega))
    · rw [newlines_cons_of_ne hx]
      by_cases hy : y = '\n'
      · subst hy
        rw [newlines_cons_newline]
        exact ⟨by omega, fun h => by omega⟩
      · rw [newlines_cons_of_ne hy]
        refine ⟨hle, fun h => ?_⟩
        have hb := hbreaks h
        simp only [breaks, List.map_cons, hx, hy, beq_eq_false_iff_ne.mpr, ne_eq, not_false_eq_true] at hb ⊢
        rw [hb]

theorem RetouchedText.breaks_eq {d : Dialect} {a b : Text} (h : RetouchedText d a b) :
    breaks b = breaks a := by
  have hlen := h.widths.length_eq
  have hkept : List.Forall₂ (fun x y => x = '\n' → y = '\n') a b := by
    refine List.forall₂_iff_get.mpr ⟨hlen, fun i hi hi' hx => ?_⟩
    apply Classical.byContradiction
    intro hy
    have ha := List.getElem?_eq_getElem hi
    rw [List.get_eq_getElem] at hx hy
    exact not_inComment_newline (hx ▸ ha)
      (h.inside i _ _ ha (List.getElem?_eq_getElem hi') (fun he => hy (he ▸ hx)))
  have hlines := h.lines_eq
  rw [length_lines, length_lines] at hlines
  exact (breaks_eq_of_kept hkept).2 (by omega)

/-- The characters at the same place of two texts with the same layout. -/
theorem exists_index_of_column {a b : Text} (h : breaks b = breaks a) {n j : Nat} {raw raw' : Text}
    (hline : a.lines[n]? = some raw) (hline' : b.lines[n]? = some raw') (hj : j < raw.length) :
    ∃ i x, a.place i = ⟨n, j⟩ ∧ x ≠ '\n' ∧ raw[j]? = some x ∧ a[i]? = some x ∧ b[i]? = raw'[j]? := by
  have hat : a.at? ⟨n, j⟩ = some raw[j] := by
    simp only [at?, hline, Option.bind_some]
    exact List.getElem?_eq_getElem hj
  obtain ⟨i, hi, hplace, hne⟩ := exists_place_of_at? hat
  have hbreak : ∀ t : Text, (breaks t)[i]? = t[i]?.map (· == '\n') := fun t => List.getElem?_map
  have hb : b[i]?.map (· == '\n') = some false := by
    rw [← hbreak b, h, hbreak a, hi, Option.map_some]
    simpa using hne
  obtain ⟨y, hy, hyne⟩ := Option.map_eq_some_iff.mp hb
  have hat' := at?_place hy (by simpa using hyne)
  rw [place_congr h, hplace] at hat'
  simp only [at?, hline', Option.bind_some] at hat'
  exact ⟨i, raw[j], hplace, hne, List.getElem?_eq_getElem hj, hi, hy.trans hat'.symm⟩

section Texts

variable {d : Dialect} {a b : Text}

/-- Each line of a retouched text is a retouched line. -/
theorem RetouchedText.retouched (h : RetouchedText d a b) {n : Nat} {raw raw' : Text}
    (hline : a.lines[n]? = some raw) (hline' : b.lines[n]? = some raw') :
    Retouched d (openBefore d a n) raw raw' := by
  have hbreaks := h.breaks_eq
  have hlen : raw'.length = raw.length := by
    have hmap := congrArg (·[n]?) (lines_map_length_congr hbreaks)
    simpa [hline, hline'] using hmap
  have index := fun {j : Nat} => @exists_index_of_column a b hbreaks n j raw raw' hline hline'
  have behind : ∀ {g : Segment} {i j : Nat}, g.shape = .blockComment → a.place i = ⟨n, j⟩ →
      Behind d (openBefore d a n) raw g j → InBlockComment d a g i := by
    intro g i j hg hplace hj
    refine ⟨hg, raw, ?_, ?_⟩
    · rw [hplace]
      exact hline
    · rw [hplace]
      exact hj
  refine ⟨?_, ?_, ?_⟩
  · refine List.forall₂_iff_get.mpr ⟨hlen.symm, fun j hj hj' => ?_⟩
    obtain ⟨i, x, -, -, hx, hi, hy⟩ := index hj
    rw [List.getElem?_eq_getElem hj] at hx
    rw [List.getElem?_eq_getElem hj'] at hy
    obtain ⟨hi, hx'⟩ := List.getElem?_eq_some_iff.mp hi
    obtain ⟨hi', hy⟩ := List.getElem?_eq_some_iff.mp hy
    rw [List.get_eq_getElem, List.get_eq_getElem, Option.some.inj hx, ← hx', ← hy]
    exact (List.forall₂_iff_get.mp h.widths).2 i hi hi'
  · intro j x y hx hy hne
    obtain ⟨hj, -⟩ := List.getElem?_eq_some_iff.mp hx
    obtain ⟨i, x', hplace, -, hx', hi, hy'⟩ := index hj
    obtain ⟨outer, houter, hin⟩ := h.inside i x y (hi.trans (hx'.symm.trans hx)) (hy'.trans hy) hne
    rw [hplace] at houter hin
    rw [hline] at houter
    cases houter
    exact hin
  · intro g j hg h1 h2 hstar hslash
    obtain ⟨hj, -⟩ := List.getElem?_eq_some_iff.mp hstar
    obtain ⟨hj', -⟩ := List.getElem?_eq_some_iff.mp hslash
    obtain ⟨i, x, hplace, hne, hx, hi, hy⟩ := @index j (by omega)
    obtain ⟨k, z, hplace', -, hz, hk, hy'⟩ := @index (j + 1) (by omega)
    -- The two characters are neighbours in the text as they are in the line.
    have hnext : k = i + 1 := by
      obtain ⟨hi', -⟩ := List.getElem?_eq_some_iff.mp hi
      obtain ⟨hk', -⟩ := List.getElem?_eq_some_iff.mp hk
      apply place_inj (Nat.le_of_lt hk') hi'
      rw [place_succ hi hne, hplace, hplace']
    subst hnext
    rw [hx, hz, ← hi, ← hk]
    exact h.no_close g i (behind hg hplace h1) (behind hg hplace' h2) (hy.trans hstar) (hy'.trans hslash)

/-! ## Cleaned lines -/

theorem leftOpen_not_both (ss : List Segment) :
    ¬ ((leftOpen ss).inComment = true ∧ (leftOpen ss).inTemplate = true) := by
  unfold leftOpen
  cases ss.getLast? with
  | none => simp [State.neutral]
  | some g =>
    rintro ⟨h1, h2⟩
    simp only [Option.map_some, Option.getD_some, Segment.leaves, decide_eq_true_eq] at h1 h2
    rw [h1.1] at h2
    cases h2.1

/-- Nothing leaves both a comment and a template open. -/
theorem openAfter_not_both (d : Dialect) {s : State} (hs : ¬ (s.inComment = true ∧ s.inTemplate = true))
    (ls : List Text) : ¬ ((openAfter d.mode s ls).inComment = true ∧ (openAfter d.mode s ls).inTemplate = true) := by
  induction ls generalizing s with
  | nil => exact hs
  | cons l ls ih =>
    obtain ⟨ss, -, hstrip⟩ := exists_segmentation d l s hs
    refine ih (s := (strip d.mode l s).2) ?_
    rw [hstrip]
    exact leftOpen_not_both ss

theorem openBefore_not_both (d : Dialect) (t : Text) (n : Nat) :
    ¬ ((openBefore d t n).inComment = true ∧ (openBefore d t n).inTemplate = true) :=
  openAfter_not_both d (by decide) _

theorem openBefore_succ {n : Nat} {t raw : Text} (h : t.lines[n]? = some raw) :
    openBefore d t (n + 1) = (strip d.mode raw (openBefore d t n)).2 := by
  rw [openBefore, List.take_add_one, h, Option.toList_some, openAfter_concat]
  rfl

/-- What is open before a line is the same in the retouched text. -/
theorem RetouchedText.openBefore_eq (h : RetouchedText d a b) {n : Nat} (hn : n ≤ a.lines.length) :
    openBefore d b n = openBefore d a n := by
  induction n with
  | zero => rfl
  | succ n ih =>
    have hlines := h.lines_eq
    have hline := List.getElem?_eq_getElem (show n < a.lines.length by omega)
    have hline' := List.getElem?_eq_getElem (show n < b.lines.length by omega)
    rw [openBefore_succ hline, openBefore_succ hline', ih (by omega),
      strip_retouched (openBefore_not_both d a n) (h.retouched hline hline')]

/-- The lines of a retouched text are cleaned to the same lines. -/
theorem RetouchedText.strip_eq (h : RetouchedText d a b) {n : Nat} {raw raw' : Text}
    (hline : a.lines[n]? = some raw) (hline' : b.lines[n]? = some raw') :
    strip d.mode raw' (openBefore d b n) = strip d.mode raw (openBefore d a n) := by
  obtain ⟨hn, -⟩ := List.getElem?_eq_some_iff.mp hline
  rw [h.openBefore_eq (Nat.le_of_lt hn)]
  exact strip_retouched (openBefore_not_both d a n) (h.retouched hline hline')

end Texts

theorem SameWidths.columnAt_eq {t u : Text} (h : SameWidths t u) (offset : Nat) :
    u.columnAt offset = t.columnAt offset := by
  have hchars : u.charsBefore offset = t.charsBefore offset := by
    induction h generalizing offset with
    | nil => rfl
    | cons hxy _ ih => rw [charsBefore, charsBefore, hxy, ih]
  rw [columnAt, columnAt, hchars]

end Strip

/-! ## Candidates -/

/-- Directives name no rules in a text without their marker. -/
theorem not_names_of_not_infix {t : Text} (h : ¬ Directive.marker <:+: t) (next : Bool) (k : Nat) (id : String) :
    ¬ Names t.lines next k id := by
  intro hnames
  obtain ⟨raw, hline, e, he, -⟩ := names_iff.mp hnames
  obtain ⟨b, ht, -⟩ := exists_append_of_lines_getElem? hline
  have hinfix : raw <:+: t := ⟨ended (t.lines.take k), b, by rw [List.append_assoc, ← ht]⟩
  exact h ((Directive.marker_infix_of_mem_readAll he).trans hinfix)

/-- Nothing is silenced in a text without the marker of directives. -/
theorem not_silenced_of_not_infix {t : Text} (h : ¬ Directive.marker <:+: t) (i : Nat) (id : String) :
    ¬ Silenced t.lines i id := by
  rintro (hnames | ⟨k, -, hnames⟩)
  · exact not_names_of_not_infix h _ _ _ hnames
  · exact not_names_of_not_infix h _ _ _ hnames

namespace LinePass

theorem cleanFrom_getElem? {p : LinePass} (hskips : p.skips = []) (i : Nat) (s : Stripper)
    (lines : List Text) (n : Nat) :
    (p.cleanFrom i s lines)[n]? = lines[n]?.map fun raw =>
      ⟨i + n, raw, (strip s.mode raw (openAfter s.mode s.state (lines.take n))).1⟩ := by
  induction lines generalizing i s n with
  | nil => rfl
  | cons raw rest ih =>
    have hno : p.skipsLine i = false := by simp [skipsLine, hskips]
    rw [cleanFrom, hno]
    cases n with
    | zero => rfl
    | succ n =>
      simp only [Bool.false_eq_true, if_false, Stripper.step, List.getElem?_cons_succ, ih]
      rw [Nat.add_right_comm, Nat.add_assoc]
      rfl

/-- What a pass finds in a line depends on its cleaned text and on the widths of its characters. -/
theorem lineCandidates_congr {p : LinePass} {rules : List Rule} {silenced silenced' : Suppressions}
    {l l' : CleanLine} (hindex : l'.index = l.index) (hcleaned : l'.cleaned = l.cleaned)
    (hraw : SameWidths l.raw l'.raw)
    (hs : ∀ id, silenced'.silences l'.index id = silenced.silences l.index id) :
    p.lineCandidates rules silenced' l' = p.lineCandidates rules silenced l := by
  have hcandidate : ∀ r, p.candidate l' r = p.candidate l r := by
    intro r
    funext m
    simp only [candidate, hindex, hcleaned, hraw.columnAt_eq]
  have hrule : p.ruleCandidates silenced' l' = p.ruleCandidates silenced l := by
    funext r
    simp only [ruleCandidates, hs, hcleaned, hcandidate]
  rw [lineCandidates, lineCandidates, hrule, hcleaned]

theorem candidates_retouched {d : Dialect} {p : LinePass} (hskips : p.skips = []) (hmode : p.mode = d.mode)
    (t : RuleTable) {a b : Text} (ha : ¬ Directive.marker <:+: a) (hb : ¬ Directive.marker <:+: b)
    (h : RetouchedText d a b) : p.candidates t b.lines = p.candidates t a.lines := by
  have hlines := h.lines_eq
  have hquiet : ∀ {u : Text}, ¬ Directive.marker <:+: u → ∀ i id,
      (Suppressions.ofLines u.lines).silences i id = false := by
    intro u hu i id
    rw [← Bool.not_eq_true, Suppressions.silences_ofLines]
    exact not_silenced_of_not_infix hu i id
  rw [candidates, candidates, List.flatMap_def, List.flatMap_def]
  congr 1
  refine List.ext_getElem? fun n => ?_
  rw [List.getElem?_map, List.getElem?_map, cleanLines, cleanLines, cleanFrom_getElem? hskips,
    cleanFrom_getElem? hskips, Option.map_map, Option.map_map]
  by_cases hn : n < a.lines.length
  · have hline := List.getElem?_eq_getElem hn
    have hline' := List.getElem?_eq_getElem (show n < b.lines.length by omega)
    have hstrip := h.strip_eq hline hline'
    rw [hline, hline', Option.map_some, Option.map_some]
    refine congrArg some (lineCandidates_congr rfl ?_ (h.retouched hline hline').widths ?_)
    · simp only [Stripper.start, hmode]
      exact congrArg Prod.fst hstrip
    · intro id
      rw [hquiet hb, hquiet ha]
  · rw [List.getElem?_eq_none (by omega), List.getElem?_eq_none (by omega)]
    rfl

end LinePass

/-! ## The scan -/

/-- Files that are read in one language. -/
def Strip.Dialect.kind : Dialect → FileKind
  | .script => .script
  | .style => .style

namespace Scanner

/-- Scripts and style sheets that differ only inside comments, without directives, have the same
findings. -/
theorem scan_retouched (s : Scanner) (d : Dialect) (path : String) {a b : Text}
    (ha : ¬ Directive.marker <:+: a) (hb : ¬ Directive.marker <:+: b) (h : RetouchedText d a b) :
    s.scan ⟨path, b, d.kind⟩ = s.scan ⟨path, a, d.kind⟩ := by
  have hcandidates : ∀ c, s.wholeCandidates ⟨path, b, d.kind⟩ d.mode c =
      s.wholeCandidates ⟨path, a, d.kind⟩ d.mode c :=
    fun c => LinePass.candidates_retouched rfl rfl s.table ha hb h
  rw [scan, scan, candidates, candidates, candidatesAs, candidatesAs, candidatesIn, candidatesIn]
  cases d with
  | script => exact congrArg _ (hcandidates _)
  | style => exact congrArg _ (hcandidates _)

/-- Quotes put in a comment over two lines. -/
theorem scan_retouched_quotes :
    let pattern : Pattern := ⟨"c", .ofRegex (.text (Text.ofString "c"))⟩
    let s : Scanner := ⟨⟨[.ofLine "no-c" pattern], .none⟩, ⟨[], [], []⟩⟩
    let a := Text.ofString "/*a\nb*/c"
    let b := Text.ofString "/*'\n`*/c"
    ¬ Directive.marker <:+: a ∧ ¬ Directive.marker <:+: b ∧ RetouchedText .script a b ∧
      s.scan ⟨"a.js", b, .script⟩ = s.scan ⟨"a.js", a, .script⟩ := by
  intro pattern s a b
  have hopened : Segmentation .script .neutral (Text.ofString "/*a")
      [⟨.blockComment, Text.ofString "/*a", false⟩] := by
    refine .fresh rfl (.cons ⟨by decide, rfl, Text.ofString "a", rfl, .unclosed ?_⟩ .nil)
    rintro (_ | i) <;> simp [Shape.Closes, CommentCloses, Shape.opener, Text.ofString]
  have hclosed : Segmentation .script ⟨true, false⟩ (Text.ofString "b*/c")
      [⟨.blockComment, Text.ofString "b*/", true⟩, ⟨.code, Text.ofString "c", true⟩] := by
    have hcode : Starts .script (spaces 3) (Text.ofString "c") ⟨.code, Text.ofString "c", true⟩ [] :=
      ⟨by decide, rfl, [], rfl, .here [] rfl rfl⟩
    have hcut : Through CommentCloses 2 (Text.ofString "b*/c") (Text.ofString "b*/") true (Text.ofString "c") := by
      refine @Through.closed CommentCloses 2 (Text.ofString "b*/") (Text.ofString "c") 1 ⟨rfl, rfl⟩ ?_ rfl
      simp [CommentCloses, Text.ofString]
    exact .tail rfl hcut (.cons hcode .nil)
  have hfirst : InComment .script a 2 :=
    ⟨_, rfl, _, 0, 2, ⟨[], [], hopened, rfl, rfl, rfl⟩, by decide, by decide⟩
  have hsecond : InComment .script a 4 :=
    ⟨_, rfl, _, 0, 0, ⟨[], _, hclosed, rfl, rfl, rfl⟩, by decide, by decide⟩
  have h : RetouchedText .script a b := by
    have hsame : ∀ i < 8, a[i]? = b[i]? ∨ i = 2 ∨ i = 4 := by decide
    have hclose : ∀ i < 8, b[i]? = some '*' → b[i + 1]? = some '/' → a[i]? = some '*' ∧ a[i + 1]? = some '/' := by
      decide
    refine ⟨by decide, by decide, fun i x y hx hy hne => ?_, fun g i _ _ hx hy => ?_⟩
    · rcases hsame i (List.getElem?_eq_some_iff.mp hx).1 with he | rfl | rfl
      · exact absurd (Option.some.inj (hx.symm.trans (he.trans hy))) hne
      · exact hfirst
      · exact hsecond
    · exact hclose i (List.getElem?_eq_some_iff.mp hx).1 hx hy
  have ha : ¬ Directive.marker <:+: a := fun h => absurd h.length_le (by decide)
  have hb : ¬ Directive.marker <:+: b := fun h => absurd h.length_le (by decide)
  exact ⟨ha, hb, h, scan_retouched s .script "a.js" ha hb h⟩

end Scanner

end FrontLint
