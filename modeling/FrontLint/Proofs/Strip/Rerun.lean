/-
  FrontLint.Proofs.Strip.Rerun — a cleaned text has nothing left to clean.

  A comment leaves at least two spaces, so characters that are neighbours in a cleaned line, none of them
  a space, are neighbours in the line: cleaning puts no new opener together. A space changes nothing
  outside comments, whatever literal it stands in, and whether a `/` opens a regular expression is
  read off the cleaned text both times. Proved:
  - `Settles.blank` / `Settles.keep`: one step of a machine, for a character that is blanked and for
    characters that are kept.
  - `strip_cleaned`: a cleaned line is cleaned to itself, from the state without its comment.
  - `run_cleaned`: so it is for every run of lines, which leaves the same template literals open and
    no comment.
-/

import FrontLint.Proofs.Strip.Segment
import FrontLint.Proofs.Strip.Layout

namespace FrontLint.Strip

open FrontLint.Text

/-! ## Kept neighbours -/

/-- Without spaces, what a cleaned line starts with the line starts with. -/
theorem Blanked.lead {raw w b : Text} (hw : ' ' ∉ w) (h : Blanked raw (w ++ b)) : w <+: raw := by
  by_cases hne : w = []
  · simp [hne]
  · obtain ⟨x, y, hraw, hx⟩ := split_around hw hne (a := []) h
    have hnil : x = [] := hx.eq_nil
    exact ⟨y, by rw [hraw, hnil, List.nil_append]⟩

/-- There is one text behind `back`, so it is the one that is known to be blanked. -/
theorem blanked_left {back t cleaned k : Text} (h : ∃ k, cleaned = back.reverse ++ k ∧ Blanked t k)
    (hk : cleaned = back.reverse ++ k) : Blanked t k := by
  obtain ⟨k', hk', hblanked⟩ := h
  rw [hk, List.append_cancel_left_eq] at hk'
  rwa [hk']

theorem Blanked.head_ne {raw cleaned : Text} (h : Blanked raw cleaned) {c : Char} (hc : c ≠ ' ')
    (hraw : ∀ u, raw ≠ c :: u) : cleaned.head? ≠ some c := by
  intro hhead
  obtain ⟨b, rfl⟩ := List.head?_eq_some_iff.mp hhead
  have hspace : ' ' ∉ [c] := by simpa using Ne.symm hc
  obtain ⟨u, hu⟩ := lead hspace (show Blanked raw ([c] ++ b) from h)
  exact hraw u hu.symm

/-- A backslash that escapes nothing stands at the end of the line, before and after. -/
theorem Blanked.escapes_nothing {raw cleaned : Text} (h : Blanked raw cleaned) {c : Char}
    (hraw : ∀ d u, c = '\\' → raw ≠ d :: u) : c ≠ '\\' ∨ cleaned = [] := by
  by_cases hc : c = '\\'
  · cases h with
    | nil => exact .inr rfl
    | keep d _ => exact absurd rfl (hraw _ _ hc)
    | blank d _ => exact absurd rfl (hraw _ _ hc)
  · exact .inl hc

/-! ## Machines outside comments -/

/-- A machine that goes on over a space and does nothing else. -/
def PassesSpaces (machine : Text → Text → Text × State) : Prop :=
  ∀ back rest, machine back (' ' :: rest) = machine (' ' :: back) rest

theorem PassesSpaces.over {machine : Text → Text → Text × State} (h : PassesSpaces machine) (n : Nat)
    (back rest : Text) : machine back (spaces n ++ rest) = machine (spaces n ++ back) rest := by
  induction n generalizing back with
  | zero => rfl
  | succ n ih =>
    have hback : spaces n ++ ' ' :: back = spaces (n + 1) ++ back := by
      rw [spaces_add, List.append_assoc]
      rfl
    rw [← hback, ← ih]
    exact h back (spaces n ++ rest)

/-- `result` is what reading a line behind `back` gave. A machine that reads what is left of the line,
outside a comment, changes nothing and leaves the same template literal open. -/
def Settles (machine : Text → Text → Text × State) (back : Text) (result : Text × State) : Prop :=
  ∃ k, result.1 = back.reverse ++ k ∧ machine back k = (result.1, ⟨false, result.2.inTemplate⟩)

namespace Settles

variable {machine next : Text → Text → Text × State} {back : Text} {result : Text × State}

theorem nil {s : State} (h : machine back [] = (back.reverse, ⟨false, s.inTemplate⟩)) :
    Settles machine back (back.reverse, s) :=
  ⟨[], by simp, h⟩

theorem blank (hpass : PassesSpaces machine) (n : Nat) (h : Settles machine (spaces n ++ back) result) :
    Settles machine back result := by
  obtain ⟨k, hresult, hagain⟩ := h
  refine ⟨spaces n ++ k, by simpa using hresult, ?_⟩
  rw [hpass.over n back k, hagain]

/-- The characters of `w` are kept, whatever is left of the text behind them. -/
theorem keep (w : Text)
    (hstep : ∀ k, result.1 = (w.reverse ++ back).reverse ++ k → machine back (w ++ k) = next (w.reverse ++ back) k)
    (h : Settles next (w.reverse ++ back) result) : Settles machine back result := by
  obtain ⟨k, hresult, hagain⟩ := h
  refine ⟨w ++ k, by simpa using hresult, ?_⟩
  rw [hstep k hresult, hagain]

/-- A whole line, read again from its start. -/
theorem again (h : Settles machine [] result) :
    machine [] result.1 = (result.1, ⟨false, result.2.inTemplate⟩) := by
  obtain ⟨k, hresult, hagain⟩ := h
  rw [List.reverse_nil, List.nil_append] at hresult
  rw [← hagain, hresult]

end Settles

/-! ## The three machines -/

theorem scriptFrom_space (lit : Literal) : PassesSpaces (scriptFrom false lit) := by
  intro back rest
  rw [scriptFrom_char (.inl (by decide)) (.inr (.inl (by decide)))]
  cases lit <;> rfl

theorem styleFrom_space {quote : Option Char} (hquote : quote ≠ some ' ') :
    PassesSpaces (styleFrom false quote) := by
  intro back rest
  rw [styleFrom_char (.inl (by decide)) (.inr (.inl (by decide)))]
  cases quote with
  | none => rfl
  | some q =>
    have hq : ' ' ≠ q := fun h => hquote (by rw [h])
    simp [nextQuote, hq]

theorem markupFrom_char {back rest : Text} {c : Char}
    (h : ∀ u, c = '<' → rest = '!' :: '-' :: '-' :: u → False) :
    markupFrom false back (c :: rest) = markupFrom false (c :: back) rest := by
  rw [markupFrom]
  exact h

theorem markupFrom_space : PassesSpaces (markupFrom false) := by
  intro back rest
  exact markupFrom_char fun u hc => absurd hc (by decide)

theorem scriptFrom_settles (inComment : Bool) (lit : Literal) (back t : Text) :
    Settles (scriptFrom false lit) back (scriptFrom inComment lit back t) := by
  fun_induction scriptFrom inComment lit back t with
  | case1 inComment lit back => exact .nil rfl
  | case2 lit back rest ih => exact .blank (scriptFrom_space lit) 2 ih
  | case3 lit back c rest _ ih => exact .blank (scriptFrom_space lit) c.utf8Size ih
  | case4 lit back c rest ih => exact .keep ['\\', c] (fun k _ => scriptFrom.eq_def _ _ _ _) ih
  | case5 back rest => exact .blank (scriptFrom_space .none) (2 + width rest) (.nil rfl)
  | case6 back rest ih => exact .blank (scriptFrom_space .none) 2 ih
  | case7 lit back c rest hesc hline hopen ih =>
    refine .keep [c] (fun k hk => ?_) ih
    have hleft : Blanked rest k := blanked_left (scriptFrom_blanked false _ (c :: back) rest) hk
    refine scriptFrom_char (hleft.escapes_nothing hesc) ?_
    by_cases hlit : lit = .none
    · by_cases hc : c = '/'
      · right
        right
        exact ⟨hleft.head_ne (by decide) fun u => hline u hlit hc,
          hleft.head_ne (by decide) fun u => hopen u hlit hc⟩
      · exact .inr (.inl hc)
    · exact .inl hlit

theorem nextQuote_ne_space (c : Char) {quote : Option Char} (h : quote ≠ some ' ') :
    nextQuote c quote ≠ some ' ' := by
  cases quote with
  | none =>
    intro hspace
    simp only [nextQuote] at hspace
    split at hspace
    · rename_i hc
      cases hspace
      simp at hc
    · cases hspace
  | some q =>
    simp only [nextQuote]
    split
    · simp
    · exact h

theorem styleFrom_settles (inComment : Bool) (quote : Option Char) (back t : Text) (hquote : quote ≠ some ' ') :
    Settles (styleFrom false quote) back (styleFrom inComment quote back t) := by
  fun_induction styleFrom inComment quote back t with
  | case1 inComment quote back => exact .nil rfl
  | case2 quote back rest ih => exact .blank (styleFrom_space hquote) 2 (ih hquote)
  | case3 quote back c rest _ ih => exact .blank (styleFrom_space hquote) c.utf8Size (ih hquote)
  | case4 quote back c rest ih => exact .keep ['\\', c] (fun k _ => styleFrom.eq_def _ _ _ _) (ih hquote)
  | case5 back rest ih => exact .blank (styleFrom_space hquote) 2 (ih hquote)
  | case6 quote back c rest hesc hopen ih =>
    refine .keep [c] (fun k hk => ?_) (ih (nextQuote_ne_space c hquote))
    have hleft : Blanked rest k := blanked_left (styleFrom_blanked false _ (c :: back) rest) hk
    refine styleFrom_char (hleft.escapes_nothing hesc) ?_
    by_cases hnone : quote = none
    · by_cases hc : c = '/'
      · right
        right
        exact hleft.head_ne (by decide) fun u => hopen u hnone hc
      · exact .inr (.inl hc)
    · exact .inl hnone

theorem markupFrom_settles (inComment : Bool) (back t : Text) :
    Settles (markupFrom false) back (markupFrom inComment back t) := by
  fun_induction markupFrom inComment back t with
  | case1 inComment back => exact .nil rfl
  | case2 back rest ih => exact .blank markupFrom_space 3 ih
  | case3 back c rest _ ih => exact .blank markupFrom_space c.utf8Size ih
  | case4 back rest ih => exact .blank markupFrom_space 4 ih
  | case5 back c rest hopen ih =>
    refine .keep [c] (fun k hk => ?_) ih
    have hleft : Blanked rest k := blanked_left (markupFrom_blanked false (c :: back) rest) hk
    refine markupFrom_char fun u hc hu => ?_
    -- The rest of an opener has no space, so it would stand in the line itself.
    have hopener : k = ['!', '-', '-'] ++ u := hu
    rw [hopener] at hleft
    obtain ⟨v, hv⟩ := hleft.lead (by decide)
    exact hopen v hc hv.symm

/-! ## Lines and runs -/

/-- A state without its comment. -/
def State.uncommented (s : State) : State := { s with inComment := false }

/-- A cleaned line is cleaned to itself. It leaves open what the line leaves, but for a comment. -/
theorem strip_cleaned (mode : Mode) (line : Text) (s : State) :
    strip mode (strip mode line s).1 s.uncommented =
      ((strip mode line s).1, (strip mode line s).2.uncommented) := by
  cases mode with
  | script => exact (scriptFrom_settles s.inComment (if s.inTemplate then .template else .none) [] line).again
  | style => exact (styleFrom_settles s.inComment none [] line (by simp)).again
  | markup => exact (markupFrom_settles s.inComment [] line).again

end FrontLint.Strip

namespace FrontLint.Stripper

/-- Line after line: each one cleaned, with the stripper behind it. -/
def run : Stripper → List Text → List (Text × Stripper)
  | _, [] => []
  | s, line :: rest => s.step line :: run (s.step line).2 rest

/-- A stripper outside the comment that is open. -/
def uncommented (s : Stripper) : Stripper := { s with state := s.state.uncommented }

theorem step_cleaned (s : Stripper) (line : Text) :
    s.uncommented.step (s.step line).1 = ((s.step line).1, (s.step line).2.uncommented) := by
  have hline := Strip.strip_cleaned s.mode line s.state
  simp only [step, uncommented]
  rw [hline]

/-- The cleaned lines of a run, run again: each step is the step of the first run without its comment. -/
theorem run_uncommented (s : Stripper) (lines : List Text) :
    s.uncommented.run ((s.run lines).map (·.1)) = (s.run lines).map fun r => (r.1, r.2.uncommented) := by
  induction lines generalizing s with
  | nil => rfl
  | cons line rest ih =>
    simp only [run, List.map_cons]
    rw [step_cleaned, ih]

/-- The cleaned lines of a run are cleaned to themselves. No line of them leaves a comment open, and each
leaves a template literal open if the line it comes from did. -/
theorem run_cleaned (mode : Mode) (lines : List Text) :
    let first := (start mode).run lines
    let again := (start mode).run (first.map (·.1))
    again.map (·.1) = first.map (·.1) ∧
      (∀ r ∈ again, r.2.state.inComment = false) ∧
      again.map (·.2.state.inTemplate) = first.map (·.2.state.inTemplate) := by
  intro first again
  have hagain : again = first.map fun r => (r.1, r.2.uncommented) := run_uncommented (start mode) lines
  rw [hagain]
  refine ⟨?_, ?_, ?_⟩
  · rw [List.map_map]
    rfl
  · intro r hr
    obtain ⟨q, -, rfl⟩ := List.mem_map.mp hr
    rfl
  · rw [List.map_map]
    rfl

end FrontLint.Stripper
