/-
  FrontLint.Proofs.Validator.Argument — which calls the validator of call arguments vetoes.

  It is meant for calls whose whole argument is one string literal (`IsLiteral`): the quote that opens it is
  closed by its last character, and by none before. The validator does not follow escapes. It looks for
  quotes of the same kind between the two ends, and lets them pass as soon as there is a backslash as well.
  Proved:
  - `isLiteral_iff`: a text in quotes is a literal iff no quote between the two ends is bare and the
    backslashes before the last one come in pairs.
  - `isPlainLiteral_iff`: a text passes for a literal iff it is in quotes and, if there are more of them
    between the two ends, has a backslash there.
  - `vetoed_iff`: so a call is vetoed iff its argument is a literal or an `Overlooked` text, which is none.
  - `joined_literals_vetoed`: such a call.
-/

import FrontLint.Proofs.Directive.Reading
import FrontLint.Proofs.Strip.Retouch
import FrontLint.Validator

namespace FrontLint

open FrontLint.Text FrontLint.Strip

/-- A third character at both ends puts no two characters side by side. -/
theorem Text.pair_infix_enclosed {a b q : Char} (ha : q ≠ a) (hb : q ≠ b) (inner : Text) :
    [a, b] <:+: q :: (inner ++ [q]) ↔ [a, b] <:+: inner := by
  have hstart : ¬ [a, b] <+: q :: (inner ++ [q]) := by
    intro h
    exact ha (List.cons_prefix_cons.mp h).1.symm
  have hend : ¬ [a, b] <:+ inner ++ [q] := by
    intro h
    rcases List.suffix_concat_iff.mp h with h | ⟨u, hu, -⟩
    · simp at h
    · have hlast : b = q := by simpa using congrArg List.getLast? hu
      exact hb hlast.symm
  rw [List.infix_cons_iff, or_iff_right hstart, List.infix_concat_iff, or_iff_right hend]

/-! ## Bare characters -/

namespace Strip

theorem backslash_mem_of_odd {t : Text} (h : endBackslashes t % 2 = 1) : '\\' ∈ t := by
  apply Classical.byContradiction
  intro hno
  have hzero : endBackslashes t = 0 := by
    unfold endBackslashes
    rw [List.length_eq_zero_iff, List.takeWhile_eq_nil_iff]
    intro hpos hhead
    apply hno
    rw [← of_decide_eq_true hhead, ← List.mem_reverse]
    exact List.getElem_mem _
  omega

/-- What is not bare is escaped. -/
theorem backslash_mem_of_not_bare {c : Char} {t : Text} (hc : c ∈ t) (h : ∀ i, ¬ Bare c t i) : '\\' ∈ t := by
  obtain ⟨i, hi⟩ := List.mem_iff_getElem?.mp hc
  have hodd : endBackslashes (t.take i) % 2 = 1 := by
    have := h i
    simp only [Bare, hi, true_and] at this
    omega
  exact List.mem_of_mem_take (backslash_mem_of_odd hodd)

theorem bare_concat_of_lt {c x : Char} {t : Text} {i : Nat} (h : i < t.length) :
    Bare c (t ++ [x]) i ↔ Bare c t i := by
  have happend := bare_append (c := c) [x] [] h
  rwa [List.append_nil] at happend

theorem bare_concat_last {c : Char} {t : Text} :
    Bare c (t ++ [c]) t.length ↔ endBackslashes t % 2 = 0 := by
  simp [Bare]

end Strip

namespace Validator

/-! ## Literals -/

/-- A quote that opens string literals. -/
def IsQuote (q : Char) : Prop := q = '"' ∨ q = '\'' ∨ q = '`'

theorem IsQuote.ne {q : Char} (h : IsQuote q) : q ≠ '$' ∧ q ≠ '{' := by
  rcases h with rfl | rfl | rfl <;> decide

/-- One string literal and nothing else: it starts with a quote, the first bare one behind that is its last
character, and there is no interpolation if the quotes are backticks. -/
def IsLiteral (arg : Text) : Prop :=
  ∃ q body last, arg = q :: body ∧ IsQuote q ∧ body.length = last + 1 ∧ Bare q body last ∧
    (∀ i, i < last → ¬ Bare q body i) ∧ (q = '`' → ¬ ['$', '{'] <:+: arg)

/-- A text with a quote at both ends, and without interpolation if they are backticks. -/
structure Enclosed (q : Char) (inner arg : Text) : Prop where
  arg_eq : arg = q :: (inner ++ [q])
  quote : IsQuote q
  fixed : q = '`' → ¬ ['$', '{'] <:+: arg

/-- A text in quotes in which the first one is closed before the last one, or the last one is escaped, and
which has a backslash in it. -/
def Overlooked (arg : Text) : Prop :=
  ∃ q inner, Enclosed q inner arg ∧ '\\' ∈ inner ∧ ((∃ i, Bare q inner i) ∨ endBackslashes inner % 2 = 1)

theorem Enclosed.unique {q q' : Char} {inner inner' arg : Text} (h : Enclosed q inner arg)
    (h' : Enclosed q' inner' arg) : q = q' ∧ inner = inner' := by
  obtain ⟨hq, hrest⟩ := List.cons.inj (h.arg_eq.symm.trans h'.arg_eq)
  exact ⟨hq, (List.append_inj' hrest rfl).1⟩

theorem Enclosed.two_le_length {q : Char} {inner arg : Text} (h : Enclosed q inner arg) : 2 ≤ arg.length := by
  rw [h.arg_eq]
  simp

theorem isLiteral_iff {arg : Text} :
    IsLiteral arg ↔
      ∃ q inner, Enclosed q inner arg ∧ (∀ i, ¬ Bare q inner i) ∧ endBackslashes inner % 2 = 0 := by
  constructor
  · rintro ⟨q, body, last, rfl, hq, hlen, hlast, hfirst, hfixed⟩
    rcases List.eq_nil_or_concat body with rfl | ⟨inner, x, rfl⟩
    · simp at hlen
    rw [List.concat_eq_append] at *
    obtain rfl : inner.length = last := by simpa using hlen
    obtain rfl : x = q := by simpa using hlast.1
    refine ⟨x, inner, ⟨rfl, hq, hfixed⟩, fun i hi => ?_, bare_concat_last.mp hlast⟩
    have hlt : i < inner.length := (List.getElem?_eq_some_iff.mp hi.1).1
    exact hfirst i hlt ((bare_concat_of_lt hlt).mpr hi)
  · rintro ⟨q, inner, ⟨rfl, hq, hfixed⟩, hno, heven⟩
    refine ⟨q, inner ++ [q], inner.length, rfl, hq, by simp, bare_concat_last.mpr heven, fun i hi h => ?_, hfixed⟩
    exact hno i ((bare_concat_of_lt hi).mp h)

theorem not_isLiteral_of_overlooked {arg : Text} (h : Overlooked arg) : ¬ IsLiteral arg := by
  obtain ⟨q, inner, henc, -, hbad⟩ := h
  rw [isLiteral_iff]
  rintro ⟨q', inner', henc', hno, heven⟩
  obtain ⟨rfl, rfl⟩ := henc.unique henc'
  rcases hbad with ⟨i, hi⟩ | hodd
  · exact hno i hi
  · omega

/-! ## What passes for a literal -/

theorem isPlainLiteral_iff {arg : Text} :
    isPlainLiteral arg = true ↔ ∃ q inner, Enclosed q inner arg ∧ (q ∈ inner → '\\' ∈ inner) := by
  have hshort : arg.length < 2 → ¬ ∃ q inner, Enclosed q inner arg ∧ (q ∈ inner → '\\' ∈ inner) := by
    rintro hlt ⟨q, inner, henc, -⟩
    have := henc.two_le_length
    omega
  rcases arg with _ | ⟨q, rest⟩
  · simp [isPlainLiteral, hshort (by simp)]
  rcases List.eq_nil_or_concat rest with rfl | ⟨inner, x, rfl⟩
  · simp [isPlainLiteral, hshort (by simp)]
  have hplain : isPlainLiteral (q :: (inner ++ [x])) = true ↔
      IsQuote q ∧ x = q ∧ (q ∈ inner → '\\' ∈ inner) ∧ (q = '`' → ¬ ['$', '{'] <:+: inner) := by
    simp [isPlainLiteral, IsQuote, ← contains_iff, or_assoc, and_assoc, imp_iff_not_or]
  rw [List.concat_eq_append, hplain]
  constructor
  · rintro ⟨hq, rfl, hescape, hfixed⟩
    refine ⟨x, inner, ⟨rfl, hq, fun hx => ?_⟩, hescape⟩
    rw [pair_infix_enclosed hq.ne.1 hq.ne.2]
    exact hfixed hx
  · rintro ⟨q', inner', ⟨heq, hq, hfixed⟩, hescape⟩
    obtain ⟨rfl, hrest⟩ := List.cons.inj heq
    obtain ⟨rfl, hx⟩ := List.append_inj' hrest rfl
    refine ⟨hq, (List.cons.inj hx).1, hescape, fun hb => ?_⟩
    rw [← pair_infix_enclosed hq.ne.1 hq.ne.2, ← heq]
    exact hfixed hb

theorem isPlainLiteral_iff_overlooked {arg : Text} :
    isPlainLiteral arg = true ↔ IsLiteral arg ∨ Overlooked arg := by
  rw [isPlainLiteral_iff, isLiteral_iff]
  constructor
  · rintro ⟨q, inner, henc, hescape⟩
    by_cases hno : ∃ i, Bare q inner i
    · obtain ⟨i, hi⟩ := hno
      exact .inr ⟨q, inner, henc, hescape (List.mem_of_getElem? hi.1), .inl ⟨i, hi⟩⟩
    · by_cases hodd : endBackslashes inner % 2 = 1
      · exact .inr ⟨q, inner, henc, backslash_mem_of_odd hodd, .inr hodd⟩
      · exact .inl ⟨q, inner, henc, not_exists.mp hno, by omega⟩
  · rintro (⟨q, inner, henc, hno, -⟩ | ⟨q, inner, henc, hback, -⟩)
    · exact ⟨q, inner, henc, fun hq => backslash_mem_of_not_bare hq hno⟩
    · exact ⟨q, inner, henc, fun _ => hback⟩

/-- A call is vetoed iff its argument is a literal, or is overlooked; what is overlooked is no literal. -/
theorem vetoed_iff (matched : Text) :
    (nonLiteralArgument matched = false ↔
      ∃ arg, argument? matched = some arg ∧ (IsLiteral arg ∨ Overlooked arg)) ∧
      ∀ arg, Overlooked arg → ¬ IsLiteral arg := by
  refine ⟨?_, fun arg => not_isLiteral_of_overlooked⟩
  unfold nonLiteralArgument
  cases argument? matched with
  | none => simp
  | some arg => simp [← isPlainLiteral_iff_overlooked]

/-- Two literals with a variable between them, the last of them with an escape. -/
theorem joined_literals_vetoed :
    nonLiteralArgument (ofString "eval('a' + b + '\\n')") = false ∧
      ∃ arg, argument? (ofString "eval('a' + b + '\\n')") = some arg ∧ ¬ IsLiteral arg := by
  refine ⟨by decide, ofString "'a' + b + '\\n'", by decide, not_isLiteral_of_overlooked ?_⟩
  exact ⟨'\'', ofString "a' + b + '\\n", ⟨by decide, by simp [IsQuote], by simp⟩, by decide, .inl ⟨1, by decide⟩⟩

end Validator

end FrontLint
