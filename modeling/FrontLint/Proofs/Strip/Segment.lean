/-
  FrontLint.Proofs.Strip.Segment — a line as a sequence of strings, literals, comments and code.

  What stands at a place of a line is a `Shape`, told by its first characters and, for a `/`, by the
  cleaned text before it. Each shape says how it opens and where it closes; a segment runs from its
  opening through the first place at which it closes, or to the end of the line. A line that
  continues a comment or a template literal begins with the rest of it. Proved, for scripts and
  style sheets:
  - `Segmentation.unique`: a line has one segmentation.
  - `strip_segmentation`: stripping a line blanks the comments of its segmentation and nothing else,
    and carries over what the last segment leaves open.
-/

import FrontLint.Proofs.Strip.Extent
import FrontLint.Strip.Run

namespace FrontLint.Strip

open FrontLint.Text

/-! ## Shapes -/

/-- The languages whose block comments are `/* … */`. -/
inductive Dialect where
  | script
  | style
  deriving DecidableEq

def Dialect.mode : Dialect → Mode
  | .script => .script
  | .style => .style

def Dialect.quotes : Dialect → List Char
  | .script => ['\'', '"', '`']
  | .style => ['\'', '"']

inductive Shape where
  | quoted (quote : Char)
  | regex
  | blockComment
  | lineComment
  | escape
  | code
  deriving DecidableEq

/-- What opens a text. `done` is the cleaned text before it. -/
def shapeAt (d : Dialect) (done : Text) : Text → Shape
  | '\\' :: _ => .escape
  | '/' :: '*' :: _ => .blockComment
  | '/' :: '/' :: _ => if d = .script then .lineComment else .code
  | '/' :: _ => if d = .script ∧ regexMayStart done.reverse then .regex else .code
  | c :: _ => if c ∈ d.quotes then .quoted c else .code
  | [] => .code

namespace Shape

/-- How many characters open it. -/
def opener : Shape → Nat
  | .blockComment | .lineComment => 2
  | _ => 1

/-- Where it closes, by places behind what opens it. -/
def Closes : Shape → Text → Nat → Prop
  | .quoted quote => Bare quote
  | .regex => RegexCloses false
  | .blockComment => CommentCloses
  | .lineComment => fun _ _ => False
  | .escape => fun t i => i = 0 ∧ t ≠ []
  | .code => fun _ i => i = 0

/-- How many characters close it. -/
def closer : Shape → Nat
  | .blockComment => 2
  | .quoted _ | .regex | .escape => 1
  | .lineComment | .code => 0

def isComment : Shape → Bool
  | .blockComment | .lineComment => true
  | _ => false

end Shape

/-! ## Segments -/

structure Segment where
  shape : Shape
  text : Text
  /-- Whether it is closed by its own closing mark and not by the end of the line. -/
  closed : Bool

namespace Segment

/-- What stripping leaves of it. -/
def cleaned (g : Segment) : Text := if g.shape.isComment then spaces (width g.text) else g.text

/-- What it leaves open for the next line, if it is the last one. -/
def leaves (g : Segment) : State where
  inComment := g.shape = .blockComment ∧ ¬ g.closed
  inTemplate := g.shape = .quoted '`' ∧ ¬ g.closed

end Segment

def leftOpen (ss : List Segment) : State := (ss.getLast?.map Segment.leaves).getD .neutral

/-- Segment `g` opens a text and `rest` comes behind it. -/
structure Starts (d : Dialect) (done t : Text) (g : Segment) (rest : Text) : Prop where
  ne_nil : t ≠ []
  shape_eq : g.shape = shapeAt d done t
  through : ∃ part, g.text = t.take g.shape.opener ++ part ∧
    Through g.shape.Closes g.shape.closer (t.drop g.shape.opener) part g.closed rest

/-- The segments of a text, from the first to the last. -/
inductive Segments (d : Dialect) : Text → Text → List Segment → Prop
  | nil {done : Text} : Segments d done [] []
  | cons {done t rest : Text} {g : Segment} {ss : List Segment} : Starts d done t g rest →
      Segments d (done ++ g.cleaned) rest ss → Segments d done t (g :: ss)

/-- What is open at the start of a line. -/
def Dialect.carried (d : Dialect) (s : State) : Option Shape :=
  if s.inComment then some .blockComment
  else if s.inTemplate ∧ '`' ∈ d.quotes then some (.quoted '`')
  else none

/-- The segments of a line, the rest of what is carried over before the others. -/
inductive Segmentation (d : Dialect) (s : State) (line : Text) : List Segment → Prop
  | fresh {ss : List Segment} : d.carried s = none → Segments d [] line ss → Segmentation d s line ss
  | tail {g : Segment} {rest : Text} {ss : List Segment} : d.carried s = some g.shape →
      Through g.shape.Closes g.shape.closer line g.text g.closed rest →
      Segments d g.cleaned rest ss → Segmentation d s line (g :: ss)

/-! ## There is one segmentation -/

theorem Starts.append_eq {d : Dialect} {done t rest : Text} {g : Segment} (h : Starts d done t g rest) :
    g.text ++ rest = t := by
  obtain ⟨part, htext, hcut⟩ := h.through
  rw [htext, List.append_assoc, hcut.append_eq, List.take_append_drop]

theorem Starts.length_lt {d : Dialect} {done t rest : Text} {g : Segment} (h : Starts d done t g rest) :
    rest.length < t.length := by
  obtain ⟨part, -, hcut⟩ := h.through
  have hpos : 0 < t.length := List.length_pos_iff.mpr h.ne_nil
  have hopen : 1 ≤ g.shape.opener := by cases g.shape <;> simp [Shape.opener]
  have hlen := congrArg List.length hcut.append_eq
  rw [List.length_append, List.length_drop] at hlen
  omega

theorem Starts.unique {d : Dialect} {done t rest rest' : Text} {g g' : Segment}
    (h : Starts d done t g rest) (h' : Starts d done t g' rest') : g = g' ∧ rest = rest' := by
  obtain ⟨shape, text, closed⟩ := g
  obtain ⟨shape', text', closed'⟩ := g'
  have hshape : shape = shape' := h.shape_eq.trans h'.shape_eq.symm
  subst hshape
  obtain ⟨part, htext, hcut⟩ := h.through
  obtain ⟨part', htext', hcut'⟩ := h'.through
  obtain ⟨rfl, rfl, rfl⟩ := hcut.unique hcut'
  simp only at htext htext'
  rw [htext, htext']
  exact ⟨rfl, rfl⟩

theorem Segments.flatMap_text {d : Dialect} {done t : Text} {ss : List Segment}
    (h : Segments d done t ss) : ss.flatMap (·.text) = t := by
  induction h with
  | nil => rfl
  | cons hg _ ih => rw [List.flatMap_cons, ih, hg.append_eq]

theorem Segments.unique {d : Dialect} {done t : Text} {ss ss' : List Segment}
    (h : Segments d done t ss) (h' : Segments d done t ss') : ss = ss' := by
  induction h generalizing ss' with
  | nil =>
    cases h' with
    | nil => rfl
    | cons hg _ => exact absurd rfl hg.ne_nil
  | cons hg _ ih =>
    cases h' with
    | nil => exact absurd rfl hg.ne_nil
    | cons hg' hss' =>
      obtain ⟨rfl, rfl⟩ := hg.unique hg'
      rw [ih hss']

theorem Segmentation.flatMap_text {d : Dialect} {s : State} {line : Text} {ss : List Segment}
    (h : Segmentation d s line ss) : ss.flatMap (·.text) = line := by
  cases h with
  | fresh _ hss => exact hss.flatMap_text
  | tail _ hcut hss => rw [List.flatMap_cons, hss.flatMap_text, hcut.append_eq]

/-- A line has one segmentation. -/
theorem Segmentation.unique {d : Dialect} {s : State} {line : Text} {ss ss' : List Segment}
    (h : Segmentation d s line ss) (h' : Segmentation d s line ss') : ss = ss' := by
  rcases h with ⟨hnone, hss⟩ | ⟨hsome, hcut, hss⟩
  · rcases h' with ⟨-, hss'⟩ | ⟨hsome', -, -⟩
    · exact hss.unique hss'
    · rw [hnone] at hsome'
      cases hsome'
  · rcases h' with ⟨hnone', -⟩ | ⟨hsome', hcut', hss'⟩
    · rw [hnone'] at hsome
      cases hsome
    · rename_i g rest ss g' rest' ss'
      obtain ⟨shape, text, closed⟩ := g
      obtain ⟨shape', text', closed'⟩ := g'
      rw [hsome] at hsome'
      cases hsome'
      obtain ⟨h1, h2, h3⟩ := hcut.unique hcut'
      simp only at h1 h2
      subst h1 h2 h3
      rw [hss.unique hss']

/-! ## Steps of the two machines -/

theorem scriptFrom_char {lit : Literal} {back rest : Text} {c : Char} (hesc : c ≠ '\\' ∨ rest = [])
    (hlit : lit ≠ .none ∨ c ≠ '/' ∨ rest.head? ≠ some '/' ∧ rest.head? ≠ some '*') :
    scriptFrom false lit back (c :: rest) = scriptFrom false (lit.next back c) (c :: back) rest := by
  rw [scriptFrom]
  · rintro d u rfl rfl
    simp at hesc
  · rintro u rfl rfl rfl
    simp at hlit
  · rintro u rfl rfl rfl
    simp at hlit

theorem styleFrom_char {quote : Option Char} {back rest : Text} {c : Char} (hesc : c ≠ '\\' ∨ rest = [])
    (hquote : quote ≠ none ∨ c ≠ '/' ∨ rest.head? ≠ some '*') :
    styleFrom false quote back (c :: rest) = styleFrom false (nextQuote c quote) (c :: back) rest := by
  rw [styleFrom]
  · rintro d u rfl rfl
    simp at hesc
  · rintro u rfl rfl rfl
    simp at hquote

namespace Dialect

/-- The machine outside comments and literals. -/
def run : Dialect → Text → Text → Text × State
  | .script => scriptFrom false .none
  | .style => styleFrom false none

def runComment : Dialect → Text → Text → Text × State
  | .script => scriptFrom true .none
  | .style => styleFrom true none

def runQuoted : Dialect → Char → Text → Text → Text × State
  | .script, q => scriptFrom false (if q = '\'' then .single else if q = '"' then .double else .template)
  | .style, q => styleFrom false (some q)

theorem script_quotes {q : Char} (hq : q ∈ script.quotes) : q = '\'' ∨ q = '"' ∨ q = '`' := by
  simpa [quotes] using hq

theorem style_quotes {q : Char} (hq : q ∈ style.quotes) : q = '\'' ∨ q = '"' := by
  simpa [quotes] using hq

theorem run_nil (d : Dialect) (back : Text) : d.run back [] = (back.reverse, .neutral) := by
  cases d <;> rfl

theorem run_pair (d : Dialect) (back : Text) (c : Char) (rest : Text) :
    d.run back ('\\' :: c :: rest) = d.run (c :: '\\' :: back) rest := by
  cases d
  · exact scriptFrom.eq_def _ _ _ _
  · exact styleFrom.eq_def _ _ _ _

theorem run_openComment (d : Dialect) (back rest : Text) :
    d.run back ('/' :: '*' :: rest) = d.runComment (spaces 2 ++ back) rest := by
  cases d
  · exact scriptFrom.eq_def _ _ _ _
  · exact styleFrom.eq_def _ _ _ _

theorem run_openQuoted (d : Dialect) {q : Char} (hq : q ∈ d.quotes) (back rest : Text) :
    d.run back (q :: rest) = d.runQuoted q (q :: back) rest := by
  cases d
  · have hcases := script_quotes hq
    rw [run, scriptFrom_char]
    · rcases hcases with rfl | rfl | rfl <;> rfl
    · rcases hcases with rfl | rfl | rfl <;> exact .inl (by decide)
    · rcases hcases with rfl | rfl | rfl <;> exact .inr (.inl (by decide))
  · have hcases := style_quotes hq
    rw [run, styleFrom_char]
    · rcases hcases with rfl | rfl <;> rfl
    · rcases hcases with rfl | rfl <;> exact .inl (by decide)
    · rcases hcases with rfl | rfl <;> exact .inr (.inl (by decide))

/-- A comment runs through its closing mark. -/
theorem runComment_through (d : Dialect) (back t : Text) :
    ∃ part closed rest, Through CommentCloses 2 t part closed rest ∧
      d.runComment back t =
        bif closed then d.run (spaces (width part) ++ back) rest
        else ((spaces (width part) ++ back).reverse, ⟨true, false⟩) := by
  have hrun : ∃ part closed rest, Through CommentCloses 2 t part closed rest ∧
      d.runComment back t = (bif closed then d.run else d.runComment) (spaces (width part) ++ back) rest := by
    apply run_comment
    · intro back rest
      cases d
      · exact scriptFrom.eq_def _ _ _ _
      · exact styleFrom.eq_def _ _ _ _
    · intro back c rest hno
      cases d
      · rw [runComment, scriptFrom]
        rintro u rfl rfl
        exact hno ⟨rfl, rfl⟩
      · rw [runComment, styleFrom]
        rintro u rfl rfl
        exact hno ⟨rfl, rfl⟩
  obtain ⟨part, closed, rest, hcut, hrun⟩ := hrun
  refine ⟨part, closed, rest, hcut, ?_⟩
  rw [hrun]
  cases closed with
  | true => rfl
  | false =>
    rw [hcut.rest_eq_nil]
    cases d <;> rfl

/-- A string or template literal runs through its closing quote. -/
theorem runQuoted_through (d : Dialect) {q : Char} (hq : q ∈ d.quotes) (back t : Text) :
    ∃ part closed rest, Through (Bare q) 1 t part closed rest ∧
      d.runQuoted q back t =
        bif closed then d.run (part.reverse ++ back) rest
        else ((part.reverse ++ back).reverse, ⟨false, q = '`'⟩) := by
  have hback : q ≠ '\\' := by
    rintro rfl
    cases d <;> simp [quotes] at hq
  have hrun : ∃ part closed rest, Through (Bare q) 1 t part closed rest ∧
      d.runQuoted q back t = (bif closed then d.run else d.runQuoted q) (part.reverse ++ back) rest := by
    apply run_quoted hback
    · intro back c rest
      cases d
      · exact scriptFrom.eq_def _ _ _ _
      · exact styleFrom.eq_def _ _ _ _
    · intro back rest
      cases d
      · have hcases := script_quotes hq
        rw [runQuoted, scriptFrom_char (.inl hback)]
        · rcases hcases with rfl | rfl | rfl <;> rfl
        · rcases hcases with rfl | rfl | rfl <;> exact .inl (by decide)
      · rw [runQuoted, styleFrom_char (.inl hback) (.inl (by simp))]
        simp [nextQuote, run]
    · intro back c rest hesc hne
      cases d
      · have hcases := script_quotes hq
        rw [runQuoted, scriptFrom_char hesc]
        · rcases hcases with rfl | rfl | rfl <;> simp [Literal.next, hne]
        · rcases hcases with rfl | rfl | rfl <;> exact .inl (by decide)
      · rw [runQuoted, styleFrom_char hesc (.inl (by simp))]
        simp [nextQuote, hne]
  obtain ⟨part, closed, rest, hcut, hrun⟩ := hrun
  refine ⟨part, closed, rest, hcut, ?_⟩
  rw [hrun]
  cases closed with
  | true => rfl
  | false =>
    rw [hcut.rest_eq_nil]
    cases d
    · have hcases := script_quotes hq
      rcases hcases with rfl | rfl | rfl <;> rfl
    · have hcases := style_quotes hq
      rcases hcases with rfl | rfl <;> rfl

/-- The literal inside a regular expression, in one of its classes or not. -/
def regexLiteral (inside : Bool) : Literal := bif inside then .regexClass else .regex

theorem regexLiteral_next {inside : Bool} {c : Char} (hno : ¬ (inside = false ∧ c = '/')) (back : Text) :
    (regexLiteral inside).next back c = regexLiteral (nextInside c inside) := by
  cases inside
  · have hc : c ≠ '/' := fun h => hno ⟨rfl, h⟩
    by_cases h1 : c = '['
    · simp [regexLiteral, Literal.next, nextInside, h1]
    · simp [regexLiteral, Literal.next, nextInside, h1, hc]
  · by_cases h1 : c = ']'
    · simp [regexLiteral, Literal.next, nextInside, h1]
    · simp [regexLiteral, Literal.next, nextInside, h1]

/-- A regular expression literal runs through its closing slash. -/
theorem runRegex_through (back t : Text) :
    ∃ part closed rest, Through (RegexCloses false) 1 t part closed rest ∧
      scriptFrom false .regex back t =
        bif closed then script.run (part.reverse ++ back) rest
        else ((part.reverse ++ back).reverse, .neutral) := by
  have hrun : ∃ part closed rest inside, Through (RegexCloses false) 1 t part closed rest ∧
      scriptFrom false (regexLiteral false) back t =
        (bif closed then script.run else scriptFrom false (regexLiteral inside)) (part.reverse ++ back) rest := by
    apply run_regex (f := fun inside => scriptFrom false (regexLiteral inside))
    · intro inside back c rest
      exact scriptFrom.eq_def _ _ _ _
    · intro back rest
      rw [scriptFrom_char (.inl (by decide)) (.inl (by decide))]
      rfl
    · intro inside back c rest hesc hno
      rw [scriptFrom_char hesc (.inl (by cases inside <;> decide)), regexLiteral_next hno]
  obtain ⟨part, closed, rest, inside, hcut, hrun⟩ := hrun
  refine ⟨part, closed, rest, hcut, hrun.trans ?_⟩
  cases closed with
  | true => rfl
  | false =>
    rw [hcut.rest_eq_nil]
    cases inside <;> rfl

/-- A character that opens nothing is kept. -/
theorem run_code (d : Dialect) {back rest : Text} {c : Char} (hesc : c ≠ '\\') (hquote : c ∉ d.quotes)
    (hslash : c = '/' → rest.head? ≠ some '*' ∧
      (d = .script → rest.head? ≠ some '/' ∧ regexMayStart back = false)) :
    d.run back (c :: rest) = d.run (c :: back) rest := by
  cases d
  · simp only [quotes, List.mem_cons, List.not_mem_nil, or_false, not_or] at hquote
    obtain ⟨h1, h2, h3⟩ := hquote
    by_cases hc : c = '/'
    · obtain ⟨hstar, hline⟩ := hslash hc
      obtain ⟨hline, hregex⟩ := hline rfl
      rw [run, scriptFrom_char (.inl hesc) (.inr (.inr ⟨hline, hstar⟩))]
      simp [Literal.next, hc, hregex]
    · rw [run, scriptFrom_char (.inl hesc) (.inr (.inl hc))]
      simp [Literal.next, hc, h1, h2, h3]
  · simp only [quotes, List.mem_cons, List.not_mem_nil, or_false, not_or] at hquote
    have hopen : (none : Option Char) ≠ none ∨ c ≠ '/' ∨ rest.head? ≠ some '*' := by
      by_cases hc : c = '/'
      · exact .inr (.inr (hslash hc).1)
      · exact .inr (.inl hc)
    rw [run, styleFrom_char (.inl hesc) hopen]
    simp [nextQuote, hquote.1, hquote.2]

end Dialect

/-! ## One segment after the other -/

theorem starts_of_through {d : Dialect} {done u part rest : Text} {shape : Shape} {closed : Bool} (op : Text)
    (hshape : shapeAt d done (op ++ u) = shape) (hop : op.length = shape.opener)
    (hcut : Through shape.Closes shape.closer u part closed rest) :
    Starts d done (op ++ u) ⟨shape, op ++ part, closed⟩ rest := by
  refine ⟨?_, hshape.symm, part, ?_, ?_⟩
  · intro h
    obtain ⟨rfl, -⟩ := List.append_eq_nil_iff.mp h
    cases shape <;> simp [Shape.opener] at hop
  · rw [List.take_left' hop]
  · rw [List.drop_left' hop]
    exact hcut

/-- The machine reads the segment that opens a text, and goes on behind it. -/
def Advances (d : Dialect) (done t : Text) : Prop :=
  ∃ g rest, Starts d done t g rest ∧
    d.run done.reverse t =
      bif g.closed then d.run (done ++ g.cleaned).reverse rest else (done ++ g.cleaned, g.leaves)

theorem advances_escape (d : Dialect) (done u : Text) : Advances d done ('\\' :: u) := by
  cases u with
  | nil =>
    refine ⟨_, _, starts_of_through ['\\'] rfl rfl (.unclosed fun i h => h.2 rfl), ?_⟩
    cases d <;> simp [Dialect.run, scriptFrom, styleFrom, Segment.cleaned, Segment.leaves, Shape.isComment,
      shapeAt, Literal.next]
  | cons c rest =>
    refine ⟨_, _, starts_of_through ['\\'] rfl rfl (.here [c] ⟨rfl, by simp⟩ rfl), ?_⟩
    rw [Dialect.run_pair]
    simp [Segment.cleaned, Shape.isComment, shapeAt]

theorem advances_comment (d : Dialect) (done u : Text) : Advances d done ('/' :: '*' :: u) := by
  obtain ⟨part, closed, rest, hcut, hrun⟩ := d.runComment_through (spaces 2 ++ done.reverse) u
  refine ⟨⟨.blockComment, '/' :: '*' :: part, closed⟩, rest,
    starts_of_through ['/', '*'] rfl rfl hcut, ?_⟩
  have hcleaned : (Segment.mk .blockComment ('/' :: '*' :: part) closed).cleaned =
      spaces 2 ++ spaces (width part) := by
    rw [← spaces_add]
    simp only [Segment.cleaned, Shape.isComment, if_true, width_cons]
    congr 1
    simp only [show '/'.utf8Size = 1 from rfl, show '*'.utf8Size = 1 from rfl]
    omega
  rw [Dialect.run_openComment, hrun, hcleaned]
  cases closed <;> simp [Segment.leaves]

theorem advances_quoted (d : Dialect) (done u : Text) {q : Char} (hq : q ∈ d.quotes)
    (hshape : shapeAt d done (q :: u) = .quoted q) : Advances d done (q :: u) := by
  obtain ⟨part, closed, rest, hcut, hrun⟩ := d.runQuoted_through hq (q :: done.reverse) u
  refine ⟨⟨.quoted q, q :: part, closed⟩, rest, starts_of_through [q] hshape rfl hcut, ?_⟩
  rw [d.run_openQuoted hq, hrun]
  cases closed <;> simp [Segment.cleaned, Segment.leaves, Shape.isComment]

theorem advances_regex (done u : Text) (hregex : regexMayStart done.reverse = true)
    (hshape : shapeAt .script done ('/' :: u) = .regex) (hline : u.head? ≠ some '/')
    (hstar : u.head? ≠ some '*') : Advances .script done ('/' :: u) := by
  obtain ⟨part, closed, rest, hcut, hrun⟩ := Dialect.runRegex_through ('/' :: done.reverse) u
  refine ⟨⟨.regex, '/' :: part, closed⟩, rest, starts_of_through ['/'] hshape rfl hcut, ?_⟩
  have hnext : Literal.none.next done.reverse '/' = .regex := by simp [Literal.next, hregex]
  rw [Dialect.run, scriptFrom_char (.inl (by decide)) (.inr (.inr ⟨hline, hstar⟩)), hnext, hrun]
  cases closed <;> simp [Segment.cleaned, Segment.leaves, Shape.isComment, State.neutral, Dialect.run]

theorem advances_lineComment (done u : Text) : Advances .script done ('/' :: '/' :: u) := by
  refine ⟨⟨.lineComment, '/' :: '/' :: u, false⟩, [],
    starts_of_through ['/', '/'] rfl rfl (.unclosed fun i h => h), ?_⟩
  have hcleaned : (Segment.mk .lineComment ('/' :: '/' :: u) false).cleaned = spaces (2 + width u) := by
    simp only [Segment.cleaned, Shape.isComment, if_true, width_cons]
    congr 1
    simp only [show '/'.utf8Size = 1 from rfl]
    omega
  rw [hcleaned, cond_false, Dialect.run, scriptFrom]
  simp [Segment.leaves, State.neutral]

theorem advances_code (d : Dialect) (done u : Text) {c : Char} (hesc : c ≠ '\\') (hquote : c ∉ d.quotes)
    (hslash : c = '/' → u.head? ≠ some '*' ∧
      (d = .script → u.head? ≠ some '/' ∧ regexMayStart done.reverse = false))
    (hshape : shapeAt d done (c :: u) = .code) : Advances d done (c :: u) := by
  refine ⟨⟨.code, [c], true⟩, u, starts_of_through [c] hshape rfl (.here [] rfl rfl), ?_⟩
  rw [d.run_code hesc hquote hslash]
  simp [Segment.cleaned, Shape.isComment]

theorem advances (d : Dialect) (done : Text) {t : Text} (ht : t ≠ []) : Advances d done t := by
  obtain ⟨c, u, rfl⟩ := List.exists_cons_of_ne_nil ht
  by_cases hesc : c = '\\'
  · rw [hesc]
    exact advances_escape d done u
  by_cases hslash : c = '/'
  · subst hslash
    have hquote : '/' ∉ d.quotes := by cases d <;> decide
    by_cases hstar : u.head? = some '*'
    · obtain ⟨v, rfl⟩ := List.head?_eq_some_iff.mp hstar
      exact advances_comment d done v
    by_cases hline : d = .script ∧ u.head? = some '/'
    · obtain ⟨rfl, hline⟩ := hline
      obtain ⟨v, rfl⟩ := List.head?_eq_some_iff.mp hline
      exact advances_lineComment done v
    have hshape : shapeAt d done ('/' :: u) =
        if d = .script ∧ regexMayStart done.reverse then .regex else .code := by
      rcases u with _ | ⟨x, u⟩
      · rfl
      · have hx : x ≠ '*' := fun h => hstar (by rw [h]; rfl)
        by_cases hd : d = .script
        · have hx' : x ≠ '/' := fun h => hline ⟨hd, by rw [h]; rfl⟩
          simp [shapeAt, hx, hx']
        · by_cases hx' : x = '/' <;> simp [shapeAt, hx, hx', hd]
    by_cases hregex : d = .script ∧ regexMayStart done.reverse
    · rw [if_pos hregex] at hshape
      obtain ⟨rfl, hregex⟩ := hregex
      exact advances_regex done u hregex hshape (fun h => hline ⟨rfl, h⟩) hstar
    · rw [if_neg hregex] at hshape
      refine advances_code d done u hesc hquote (fun _ => ⟨hstar, fun hd => ?_⟩) hshape
      exact ⟨fun h => hline ⟨hd, h⟩, by simpa [hd] using hregex⟩
  · have hshape : shapeAt d done (c :: u) = if c ∈ d.quotes then .quoted c else .code := by
      simp [shapeAt, hslash]
    by_cases hquote : c ∈ d.quotes
    · rw [if_pos hquote] at hshape
      exact advances_quoted d done u hquote hshape
    · rw [if_neg hquote] at hshape
      exact advances_code d done u hesc hquote (fun h => absurd h hslash) hshape

theorem leftOpen_cons_of_closed {g : Segment} (hg : g.closed = true) (ss : List Segment) :
    leftOpen (g :: ss) = leftOpen ss := by
  cases ss with
  | nil => simp [leftOpen, Segment.leaves, hg, State.neutral]
  | cons h ss => simp [leftOpen]

/-- Outside comments and literals, the machine reads segment after segment. -/
theorem run_segments (d : Dialect) (done t : Text) :
    ∃ ss, Segments d done t ss ∧ d.run done.reverse t = (done ++ ss.flatMap (·.cleaned), leftOpen ss) := by
  induction hn : t.length using Nat.strongRecOn generalizing done t with
  | _ n ih =>
    by_cases ht : t = []
    · subst ht
      refine ⟨[], .nil, ?_⟩
      rw [Dialect.run_nil]
      simp [leftOpen]
    · obtain ⟨g, rest, hg, hrun⟩ := advances d done ht
      cases hclosed : g.closed with
      | false =>
        have hrest : rest = [] := by
          obtain ⟨part, -, hcut⟩ := hg.through
          rw [hclosed] at hcut
          exact hcut.rest_eq_nil
        subst hrest
        refine ⟨[g], .cons hg .nil, ?_⟩
        rw [hrun, hclosed]
        simp [leftOpen]
      | true =>
        have hlt : rest.length < t.length := hg.length_lt
        obtain ⟨ss, hss, hmore⟩ := ih rest.length (by omega) (done ++ g.cleaned) rest rfl
        refine ⟨g :: ss, .cons hg hss, ?_⟩
        rw [hrun, hclosed, cond_true, hmore, leftOpen_cons_of_closed hclosed]
        simp

/-- The rest of what is carried over, then segment after segment. -/
theorem run_tail {d : Dialect} {s : State} {line rest : Text} {g : Segment} {result : Text × State}
    (hcarried : d.carried s = some g.shape)
    (hcut : Through g.shape.Closes g.shape.closer line g.text g.closed rest)
    (hrun : result = bif g.closed then d.run g.cleaned.reverse rest else (g.cleaned, g.leaves)) :
    ∃ ss, Segmentation d s line ss ∧ result = (ss.flatMap (·.cleaned), leftOpen ss) := by
  cases hclosed : g.closed with
  | false =>
    rw [hclosed] at hcut hrun
    have hrest := hcut.rest_eq_nil
    subst hrest
    rw [← hclosed] at hcut
    refine ⟨[g], .tail hcarried hcut .nil, ?_⟩
    rw [hrun]
    simp [leftOpen]
  | true =>
    obtain ⟨ss, hss, hmore⟩ := run_segments d g.cleaned rest
    refine ⟨g :: ss, .tail hcarried hcut hss, ?_⟩
    rw [hrun, hclosed, cond_true, hmore, leftOpen_cons_of_closed hclosed]
    simp

theorem exists_segmentation (d : Dialect) (line : Text) (s : State)
    (hs : ¬ (s.inComment = true ∧ s.inTemplate = true)) :
    ∃ ss, Segmentation d s line ss ∧ strip d.mode line s = (ss.flatMap (·.cleaned), leftOpen ss) := by
  obtain ⟨inComment, inTemplate⟩ := s
  cases inComment with
  | true =>
    have htemplate : inTemplate = false := by simpa using hs
    subst htemplate
    have hstrip : strip d.mode line ⟨true, false⟩ = d.runComment [] line := by cases d <;> rfl
    obtain ⟨part, closed, rest, hcut, hrun⟩ := d.runComment_through [] line
    have hcarried : d.carried ⟨true, false⟩ = some .blockComment := by simp [Dialect.carried]
    refine run_tail (g := ⟨.blockComment, part, closed⟩) hcarried hcut ?_
    rw [hstrip, hrun]
    cases closed <;> simp [Segment.cleaned, Segment.leaves, Shape.isComment]
  | false =>
    by_cases htail : inTemplate = true ∧ '`' ∈ d.quotes
    · obtain ⟨rfl, hquote⟩ := htail
      have hscript : d = .script := by
        cases d
        · rfl
        · simp [Dialect.quotes] at hquote
      subst hscript
      obtain ⟨part, closed, rest, hcut, hrun⟩ := Dialect.script.runQuoted_through hquote [] line
      have hcarried : Dialect.script.carried ⟨false, true⟩ = some (.quoted '`') := by
        simp [Dialect.carried, Dialect.quotes]
      refine run_tail (g := ⟨.quoted '`', part, closed⟩) hcarried hcut ?_
      have hstrip : strip Dialect.script.mode line ⟨false, true⟩ = Dialect.script.runQuoted '`' [] line := rfl
      rw [hstrip, hrun]
      cases closed <;> simp [Segment.cleaned, Segment.leaves, Shape.isComment]
    · have hcarried : d.carried ⟨false, inTemplate⟩ = none := by
        simpa [Dialect.carried] using htail
      have hstrip : strip d.mode line ⟨false, inTemplate⟩ = d.run [] line := by
        cases d
        · have : inTemplate = false := by simpa [Dialect.quotes] using htail
          subst this
          rfl
        · rfl
      obtain ⟨ss, hss, hrun⟩ := run_segments d [] line
      exact ⟨ss, .fresh hcarried hss, by simpa [hstrip] using hrun⟩

/-- A line has one segmentation. Stripping it blanks the comments, byte for byte, keeps all else and
carries over what the last segment leaves open. -/
theorem strip_segmentation (d : Dialect) (line : Text) (s : State)
    (hs : ¬ (s.inComment = true ∧ s.inTemplate = true)) :
    ∃ ss, Segmentation d s line ss ∧ (∀ ss', Segmentation d s line ss' → ss' = ss) ∧
      ss.flatMap (·.text) = line ∧
      strip d.mode line s = (ss.flatMap (·.cleaned), leftOpen ss) := by
  obtain ⟨ss, hss, hrun⟩ := exists_segmentation d line s hs
  exact ⟨ss, hss, fun ss' hss' => hss'.unique hss, hss.flatMap_text, hrun⟩

/-- A line that ends a comment of the line before it, then has a slash in a class of a literal. -/
theorem strip_segmentation_carried_comment :
    let s : State := ⟨true, false⟩
    let line := Text.ofString "é */ a = /[/]\\// // b"
    ¬ (s.inComment = true ∧ s.inTemplate = true) ∧
      ∃ ss, Segmentation .script s line ss ∧ (∀ ss', Segmentation .script s line ss' → ss' = ss) ∧
        ss.flatMap (·.text) = line ∧
        strip .script line s = (ss.flatMap (·.cleaned), leftOpen ss) :=
  ⟨by decide, strip_segmentation .script _ _ (by decide)⟩

end FrontLint.Strip
