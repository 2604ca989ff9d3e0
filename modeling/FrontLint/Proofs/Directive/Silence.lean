/-
  FrontLint.Proofs.Directive.Silence — which rules the directives of consecutive lines silence, and
  where.

  A directive on a line names rules for the line itself or for the one below (`Names`). Proved:
  - `silences_ofLines`: a rule is silenced on a line by a directive there or above it.
  - `silencesSpan_ofLines`: which directives silence a match over several lines.
  - `silencesSpan_ofLines_onLine` / `silencesSpan_ofLines_above`: a directive there or above it also
    silences every match that starts on the line.
-/

import FrontLint.Directive

namespace FrontLint

/-- Line `k` has a directive that names rule `id`, for the line below it or for itself. -/
def Names (lines : List Text) (next : Bool) (k : Nat) (id : String) : Prop :=
  ∃ line, lines[k]? = some line ∧
    id ∈ bif next then (LineDirectives.ofLine line).nextLine else (LineDirectives.ofLine line).sameLine

theorem names_iff {lines : List Text} {next : Bool} {k : Nat} {id : String} :
    Names lines next k id ↔ ∃ line, lines[k]? = some line ∧
      ∃ d ∈ Directive.readAll 0 line, d.nextLine = next ∧ id ∈ d.ids := by
  cases next <;> simp [Names, LineDirectives.ofLine, and_assoc]

/-- Rule `id` is silenced on line `i`: by a directive there, or by one for the next line above it. -/
def Silenced (lines : List Text) (i : Nat) (id : String) : Prop :=
  Names lines false i id ∨ ∃ k, i = k + 1 ∧ Names lines true k id

namespace Suppressions

variable {lines : List Text} {i : Nat} {id : String}

theorem byLine_ofLines (lines : List Text) (i : Nat) :
    (ofLines lines).byLine[i]? = lines[i]?.map LineDirectives.ofLine := by
  simp [ofLines]

theorem onLine_ofLines : (ofLines lines).onLine i id = true ↔ Names lines false i id := by
  cases h : lines[i]? <;> simp [onLine, byLine_ofLines, Names, h]

theorem fromAbove_ofLines :
    (ofLines lines).fromAbove i id = true ↔ ∃ k, i = k + 1 ∧ Names lines true k id := by
  rcases i with _ | i
  · simp [fromAbove]
  · cases h : lines[i]? <;> simp [fromAbove, byLine_ofLines, Names, h]

theorem silences_ofLines : (ofLines lines).silences i id = true ↔ Silenced lines i id := by
  rw [silences, Bool.or_eq_true, onLine_ofLines, fromAbove_ofLines]
  rfl

/-- A match is silenced by a directive for its own line on one of its lines, and by any directive above
the first. -/
theorem silencesSpan_ofLines {first last : Nat} :
    (ofLines lines).silencesSpan first last id = true ↔
      (∃ k, first ≤ k ∧ k ≤ last ∧ Names lines false k id) ∨
        ∃ k next, first = k + 1 ∧ Names lines next k id := by
  have hspan : (List.range (ofLines lines).byLine.size).any
      (fun line => first ≤ line && line ≤ last && (ofLines lines).onLine line id) = true ↔
        ∃ k, first ≤ k ∧ k ≤ last ∧ Names lines false k id := by
    simp only [List.any_eq_true, List.mem_range, Bool.and_eq_true, decide_eq_true_eq, onLine_ofLines, and_assoc]
    constructor
    · rintro ⟨k, -, h⟩
      exact ⟨k, h⟩
    · rintro ⟨k, h1, h2, h3⟩
      have hk : k < lines.length := by
        obtain ⟨line, hline, -⟩ := h3
        exact (List.getElem?_eq_some_iff.mp hline).1
      exact ⟨k, by simpa [ofLines] using hk, h1, h2, h3⟩
  have habove : (decide (0 < first) && (ofLines lines).onLine (first - 1) id) = true ↔
      ∃ k, first = k + 1 ∧ Names lines false k id := by
    rw [Bool.and_eq_true, decide_eq_true_eq, onLine_ofLines]
    constructor
    · rintro ⟨hpos, h⟩
      exact ⟨first - 1, by omega, h⟩
    · rintro ⟨k, rfl, h⟩
      exact ⟨Nat.succ_pos k, h⟩
  rw [silencesSpan, Bool.or_eq_true, Bool.or_eq_true, hspan, habove, fromAbove_ofLines, or_assoc]
  refine or_congr_right ?_
  constructor
  · rintro (⟨k, hk, h⟩ | ⟨k, hk, h⟩)
    · exact ⟨k, false, hk, h⟩
    · exact ⟨k, true, hk, h⟩
  · rintro ⟨k, next, hk, h⟩
    cases next
    · exact .inl ⟨k, hk, h⟩
    · exact .inr ⟨k, hk, h⟩

/-- A directive on the first line of a match silences the match. -/
theorem silencesSpan_ofLines_onLine {last : Nat} (hle : i ≤ last) (h : Names lines false i id) :
    (ofLines lines).silencesSpan i last id = true :=
  silencesSpan_ofLines.mpr (.inl ⟨i, Nat.le_refl _, hle, h⟩)

/-- So does a directive for the next line above it. -/
theorem silencesSpan_ofLines_above {k last : Nat} (h : Names lines true k id) :
    (ofLines lines).silencesSpan (k + 1) last id = true :=
  silencesSpan_ofLines.mpr (.inr ⟨k, true, rfl, h⟩)

end Suppressions

end FrontLint
