/-
  FrontLint.Proofs.Text.Preview — what a preview shows.

  A text is read as words with white space around them (`HasWords`), in one way only. Its preview is the
  words with one space between any two, cut to its limit. A cut falls anywhere, behind a space too, but
  there the dots follow, so that the cut text is itself in single spaces, and what is in single spaces is
  not changed by joining its words anew. Proved:
  - `hasWords_iff`: the words of a text are the ones it is read as.
  - `singleSpaced_joinWords` / `joinWords_words`: joined words are in single spaces, and a text in single
    spaces is its words joined.
  - `SingleSpaced.cut`: a text in single spaces stays so if its end is replaced by a word.
  - `preview_normal`: so a preview is short, in single spaces, made from the words alone, and its own preview.
-/

import FrontLint.Preview
import FrontLint.Proofs.Path.Components
import Mathlib.Data.List.Basic

namespace FrontLint

namespace Text

/-- A word: characters that are not white space, at least one. -/
structure IsWord (w : Text) : Prop where
  ne_nil : w ≠ []
  solid : ∀ c ∈ w, isBlank c = false

/-- A text and the words it is read as: white space, then a word that the end of the text or more white space
ends, and so on. -/
inductive HasWords : Text → List Text → Prop
  | blank {t : Text} : allBlank t = true → HasWords t []
  | word {gap w rest : Text} {ws : List Text} : allBlank gap = true → IsWord w →
      (∀ c ∈ rest.head?, isBlank c = true) → HasWords rest ws → HasWords (gap ++ w ++ rest) (w :: ws)

/-- No white space but single spaces, each with something else right before and right behind it. -/
def SingleSpaced (t : Text) : Prop :=
  ∀ a c b, t = a ++ c :: b → isBlank c = true →
    c = ' ' ∧ (∃ x, a.getLast? = some x ∧ isBlank x = false) ∧ ∃ y, b.head? = some y ∧ isBlank y = false

/-! ## Words -/

/-- White space between two texts keeps their words apart. -/
theorem words_append_cons {c : Char} (hc : isBlank c = true) (s t : Text) :
    words (s ++ c :: t) = words s ++ words t := by
  unfold words
  rw [splitOn_append_cons hc, List.filter_append]

theorem words_cons {c : Char} (hc : isBlank c = true) (t : Text) : words (c :: t) = words t :=
  words_append_cons hc [] t

theorem words_gap {gap : Text} (hgap : allBlank gap = true) (t : Text) : words (gap ++ t) = words t := by
  induction gap with
  | nil => rfl
  | cons c gap ih =>
    obtain ⟨hc, hrest⟩ : isBlank c = true ∧ allBlank gap = true := by simpa [allBlank] using hgap
    rw [List.cons_append, words_cons hc, ih hrest]

theorem words_word {w : Text} (hw : IsWord w) : words w = [w] := by
  unfold words
  rw [splitOn_of_not_mem hw.solid]
  simp [hw.ne_nil]

theorem words_eq_of_hasWords {t : Text} {ws : List Text} (h : HasWords t ws) : words t = ws := by
  induction h with
  | @blank t hblank =>
    have hnone := words_gap hblank []
    rwa [List.append_nil] at hnone
  | @word gap w rest ws hgap hw hrest _ ih =>
    rw [List.append_assoc, words_gap hgap]
    cases rest with
    | nil =>
      rw [List.append_nil, words_word hw, ← ih]
      rfl
    | cons c rest =>
      have hc : isBlank c = true := hrest c rfl
      rw [words_append_cons hc, words_word hw, ← ih, words_cons hc]
      rfl

theorem hasWords_cons_blank {c : Char} (hc : isBlank c = true) {t : Text} {ws : List Text} (h : HasWords t ws) :
    HasWords (c :: t) ws := by
  cases h with
  | blank hblank => exact .blank (by simpa [allBlank, hc] using hblank)
  | @word gap w rest ws hgap hw hrest hws =>
    show HasWords ((c :: gap) ++ w ++ rest) (w :: ws)
    exact .word (by simpa [allBlank, hc] using hgap) hw hrest hws

theorem exists_hasWords (t : Text) : ∃ ws, HasWords t ws := by
  induction t with
  | nil => exact ⟨[], .blank rfl⟩
  | cons c t ih =>
    obtain ⟨ws, hws⟩ := ih
    by_cases hc : isBlank c = true
    · exact ⟨ws, hasWords_cons_blank hc hws⟩
    · have hsolid : isBlank c = false := by simpa using hc
      have hsingle : IsWord [c] := ⟨by simp, by simpa using hsolid⟩
      have hstart : (∀ d ∈ t.head?, isBlank d = true) → HasWords (c :: t) ([c] :: ws) := by
        intro hhead
        show HasWords ([] ++ [c] ++ t) ([c] :: ws)
        exact .word rfl hsingle hhead hws
      cases hws with
      | blank hblank =>
        refine ⟨_, hstart ?_⟩
        intro d hd
        exact List.all_eq_true.mp hblank d (List.mem_of_mem_head? hd)
      | @word gap w rest ws hgap hw hrest hrestws =>
        cases gap with
        -- The character goes before a word, or, if there is a gap first, is a word of its own.
        | nil =>
          have hlonger : IsWord (c :: w) := by
            refine ⟨by simp, ?_⟩
            intro d hd
            rcases List.mem_cons.mp hd with rfl | hd
            · exact hsolid
            · exact hw.solid d hd
          refine ⟨(c :: w) :: ws, ?_⟩
          show HasWords ([] ++ (c :: w) ++ rest) ((c :: w) :: ws)
          exact .word rfl hlonger hrest hrestws
        | cons d gap =>
          have hd : isBlank d = true := (by simpa [allBlank] using hgap : isBlank d = true ∧ _).1
          refine ⟨_, hstart ?_⟩
          simpa using hd

/-- The words of a text are the ones it is read as. -/
theorem hasWords_iff {t : Text} {ws : List Text} : HasWords t ws ↔ words t = ws := by
  constructor
  · exact words_eq_of_hasWords
  · intro h
    obtain ⟨ws', hws'⟩ := exists_hasWords t
    rw [← h, words_eq_of_hasWords hws']
    exact hws'

theorem isWord_of_mem_words {t w : Text} (h : w ∈ words t) : IsWord w := by
  obtain ⟨hsplit, hne⟩ := List.mem_filter.mp h
  exact ⟨by simpa using hne, sep_eq_false_of_mem_splitOn hsplit⟩

/-! ## Single spaces -/

theorem joinWords_cons {w : Text} {ws : List Text} (h : ws ≠ []) : joinWords (w :: ws) = w ++ ' ' :: joinWords ws := by
  cases ws with
  | nil => exact absurd rfl h
  | cons => rfl

theorem joinWords_eq_intercalate (ws : List Text) : joinWords ws = [' '].intercalate ws := by
  induction ws with
  | nil => rfl
  | cons w ws ih =>
    cases ws with
    | nil => simp [joinWords]
    | cons v vs =>
      rw [joinWords_cons (by simp), ih, List.intercalate_cons_cons]
      simp

theorem IsWord.exists_head {w : Text} (h : IsWord w) : ∃ x, w.head? = some x ∧ isBlank x = false := by
  cases w with
  | nil => exact absurd rfl h.ne_nil
  | cons x w => exact ⟨x, rfl, h.solid x List.mem_cons_self⟩

theorem IsWord.exists_last {w : Text} (h : IsWord w) : ∃ x, w.getLast? = some x ∧ isBlank x = false :=
  ⟨w.getLast h.ne_nil, List.getLast?_eq_some_getLast h.ne_nil, h.solid _ (List.getLast_mem h.ne_nil)⟩

theorem IsWord.not_mem {w : Text} (h : IsWord w) {c : Char} (hc : isBlank c = true) : c ∉ w := by
  intro hmem
  have hsolid := h.solid c hmem
  rw [hc] at hsolid
  cases hsolid

theorem singleSpaced_word {w : Text} (h : IsWord w) : SingleSpaced w := by
  intro a c b heq hc
  exact absurd (by simp [heq]) (h.not_mem hc)

theorem SingleSpaced.join {s t : Text} (hs : SingleSpaced s) (ht : SingleSpaced t)
    (hlast : ∃ x, s.getLast? = some x ∧ isBlank x = false) (hhead : ∃ y, t.head? = some y ∧ isBlank y = false) :
    SingleSpaced (s ++ ' ' :: t) := by
  intro a c b heq hc
  rcases List.append_eq_append_iff.mp heq with ⟨m, ha, hb⟩ | ⟨m, ha, hb⟩
  · cases m with
    | nil =>
      obtain ⟨rfl, rfl⟩ := List.cons.inj hb
      rw [ha, List.append_nil]
      exact ⟨rfl, hlast, hhead⟩
    | cons d m =>
      obtain ⟨rfl, rfl⟩ := List.cons.inj hb
      obtain ⟨hspace, ⟨x, hx, hsolid⟩, hnext⟩ := ht m c b rfl hc
      refine ⟨hspace, ⟨x, ?_, hsolid⟩, hnext⟩
      rw [ha]
      simp [List.getLast?_cons, hx]
  · cases m with
    | nil =>
      obtain ⟨rfl, rfl⟩ := List.cons.inj hb
      rw [List.append_nil] at ha
      exact ⟨rfl, ha ▸ hlast, hhead⟩
    | cons d m =>
      obtain ⟨rfl, rfl⟩ := List.cons.inj hb
      obtain ⟨hspace, hprev, y, hy, hsolid⟩ := hs a c m ha hc
      refine ⟨hspace, hprev, y, ?_, hsolid⟩
      simp [hy]

/-- What stands behind a space that is single. -/
theorem SingleSpaced.behind {s t : Text} (h : SingleSpaced (s ++ ' ' :: t)) : SingleSpaced t := by
  intro a c b heq hc
  obtain ⟨hspace, ⟨x, hx, hsolid⟩, hnext⟩ := h (s ++ ' ' :: a) c b (by simp [heq]) hc
  refine ⟨hspace, ⟨x, ?_, hsolid⟩, hnext⟩
  cases ha : a.getLast? with
  | some y => simpa [List.getLast?_cons, ha] using hx
  | none =>
    -- The space itself would stand right before `c`.
    have hsame : ' ' = x := by simpa [List.getLast?_cons, ha] using hx
    rw [← hsame] at hsolid
    exact absurd hsolid (by decide)

/-- A text in single spaces does not start with white space. -/
theorem SingleSpaced.head_solid {c : Char} {t : Text} (h : SingleSpaced (c :: t)) : isBlank c = false := by
  cases hc : isBlank c with
  | false => rfl
  | true =>
    obtain ⟨-, ⟨x, hx, -⟩, -⟩ := h [] c t rfl hc
    cases hx

/-- A word in place of the end keeps a text in single spaces. -/
theorem SingleSpaced.cut {t w : Text} (h : SingleSpaced t) (hw : IsWord w) (n : Nat) :
    SingleSpaced (t.take n ++ w) := by
  intro a c b heq hc
  rcases List.append_eq_append_iff.mp heq with ⟨m, -, hb⟩ | ⟨m, ha, hb⟩
  · exact absurd (by simp [hb]) (hw.not_mem hc)
  · cases m with
    | nil =>
      rw [List.nil_append] at hb
      exact absurd (by simp [← hb]) (hw.not_mem hc)
    | cons d m =>
      obtain ⟨rfl, rfl⟩ := List.cons.inj hb
      have hwhole : t = a ++ c :: (m ++ t.drop n) := by
        rw [← List.cons_append, ← List.append_assoc, ← ha, List.take_append_drop]
      obtain ⟨hspace, hprev, y, hy, hsolid⟩ := h a c _ hwhole hc
      refine ⟨hspace, hprev, ?_⟩
      cases m with
      | nil => exact hw.exists_head
      | cons d m => exact ⟨y, hy, hsolid⟩

theorem exists_head_joinWords {w : Text} {ws : List Text} (hw : IsWord w) :
    ∃ y, (joinWords (w :: ws)).head? = some y ∧ isBlank y = false := by
  obtain ⟨y, hy, hsolid⟩ := hw.exists_head
  refine ⟨y, ?_, hsolid⟩
  cases ws with
  | nil => exact hy
  | cons v vs =>
    rw [joinWords_cons (by simp), List.head?_append, hy]
    rfl

theorem singleSpaced_joinWords {ws : List Text} (h : ∀ w ∈ ws, IsWord w) : SingleSpaced (joinWords ws) := by
  induction ws with
  | nil =>
    intro a c b heq
    simp [joinWords] at heq
  | cons w ws ih =>
    have hw : IsWord w := h w List.mem_cons_self
    cases ws with
    | nil => exact singleSpaced_word hw
    | cons v vs =>
      have hv : IsWord v := h v (by simp)
      rw [joinWords_cons (by simp)]
      refine SingleSpaced.join (singleSpaced_word hw) ?_ hw.exists_last (exists_head_joinWords hv)
      exact ih fun u hu => h u (List.mem_cons_of_mem w hu)

/-- The induction goes over the words behind the first one, which is `u`. -/
theorem joinWords_of_hasWords {t : Text} {ws : List Text} (h : HasWords t ws) :
    ∀ u, IsWord u → (∀ c ∈ t.head?, isBlank c = true) → SingleSpaced (u ++ t) → joinWords (u :: ws) = u ++ t := by
  induction h with
  | @blank t hblank =>
    intro u hu _ hspaced
    cases t with
    | nil => simp [joinWords]
    | cons c t =>
      obtain ⟨hc, hrest⟩ : isBlank c = true ∧ ∀ d ∈ t, isBlank d = true := by simpa [allBlank] using hblank
      obtain ⟨-, -, y, hy, hsolid⟩ := hspaced u c t rfl hc
      rw [hrest y (List.mem_of_mem_head? hy)] at hsolid
      cases hsolid
  | @word gap w rest ws hgap hw hrest _ ih =>
    intro u hu hhead hspaced
    obtain ⟨x, hx, hsolid⟩ := hw.exists_head
    cases gap with
    | nil =>
      have hblank : isBlank x = true := hhead x (by simp [hx])
      rw [hsolid] at hblank
      cases hblank
    | cons c gap =>
      obtain ⟨hc, hmore⟩ : isBlank c = true ∧ ∀ d ∈ gap, isBlank d = true := by simpa [allBlank] using hgap
      obtain ⟨rfl, -, y, hy, hsolid'⟩ := hspaced u c (gap ++ w ++ rest) rfl hc
      -- A second character of the gap would be white space next to the space.
      obtain rfl : gap = [] := by
        cases gap with
        | nil => rfl
        | cons d gap =>
          obtain rfl : d = y := by simpa using hy
          rw [hmore d List.mem_cons_self] at hsolid'
          cases hsolid'
      have hbehind : SingleSpaced (w ++ rest) := SingleSpaced.behind hspaced
      rw [joinWords_cons (by simp), ih w hw hrest hbehind]
      rfl

/-- A text in single spaces is its words joined. -/
theorem joinWords_words {t : Text} (h : SingleSpaced t) : joinWords (words t) = t := by
  obtain ⟨ws, hws⟩ := exists_hasWords t
  rw [hasWords_iff.mp hws]
  cases hws with
  | @blank t hblank =>
    cases t with
    | nil => rfl
    | cons c t =>
      have hc : isBlank c = true := List.all_eq_true.mp hblank c List.mem_cons_self
      rw [h.head_solid] at hc
      cases hc
  | @word gap w rest ws hgap hw hrest hrestws =>
    cases gap with
    | nil => exact joinWords_of_hasWords hrestws w hw hrest h
    | cons c gap =>
      have hc : isBlank c = true := List.all_eq_true.mp hgap c List.mem_cons_self
      rw [SingleSpaced.head_solid h] at hc
      cases hc

end Text

open Text

/-! ## Previews -/

theorem preview_eq (t : Text) :
    preview t = joinWords (words t) ∧ (joinWords (words t)).length ≤ 80 ∨
      preview t = (joinWords (words t)).take 77 ++ ofString "..." ∧ 80 < (joinWords (words t)).length := by
  by_cases h : (joinWords (words t)).length ≤ 80
  · exact .inl ⟨if_pos h, h⟩
  · exact .inr ⟨if_neg h, by omega⟩

theorem length_preview_le (t : Text) : (preview t).length ≤ 80 := by
  rcases preview_eq t with ⟨heq, hlen⟩ | ⟨heq, hlen⟩
  · rw [heq]
    exact hlen
  · rw [heq, List.length_append, List.length_take_of_le (by omega)]
    decide

theorem singleSpaced_preview (t : Text) : SingleSpaced (preview t) := by
  have hjoined : SingleSpaced (joinWords (words t)) := singleSpaced_joinWords fun w => isWord_of_mem_words
  have hdot : isBlank '.' = false := by decide
  have hdots : IsWord (ofString "...") := ⟨by decide, by simp [ofString, hdot]⟩
  rcases preview_eq t with ⟨heq, -⟩ | ⟨heq, -⟩
  · rw [heq]
    exact hjoined
  · rw [heq]
    exact hjoined.cut hdots 77

/-- What is short and in single spaces is its own preview. -/
theorem preview_of_singleSpaced {t : Text} (h : SingleSpaced t) (hlen : t.length ≤ 80) : preview t = t := by
  have hjoined := joinWords_words h
  rcases preview_eq t with ⟨heq, -⟩ | ⟨-, hlong⟩
  · rw [heq, hjoined]
  · rw [hjoined] at hlong
    omega

/-- A text is read as words in one way. Its preview is short and in single spaces, is made of the words alone,
by joining them and cutting what is too long, and is its own preview. -/
theorem preview_normal (t : Text) :
    ∃ ws, (∀ ws', HasWords t ws' ↔ ws' = ws) ∧
      (preview t).length ≤ 80 ∧ SingleSpaced (preview t) ∧
      (∀ t', HasWords t' ws → preview t' = preview t) ∧
      (([' '].intercalate ws).length ≤ 80 → preview t = [' '].intercalate ws) ∧
      (80 < ([' '].intercalate ws).length → preview t = ([' '].intercalate ws).take 77 ++ ofString "...") ∧
      preview (preview t) = preview t := by
  refine ⟨words t, fun ws' => hasWords_iff.trans eq_comm, length_preview_le t, singleSpaced_preview t, ?_, ?_, ?_,
    preview_of_singleSpaced (singleSpaced_preview t) (length_preview_le t)⟩
  · intro t' h
    unfold preview
    rw [hasWords_iff.mp h]
  · intro hshort
    rw [← joinWords_eq_intercalate] at hshort ⊢
    exact if_pos hshort
  · intro hlong
    rw [← joinWords_eq_intercalate] at hlong ⊢
    exact if_neg (Nat.not_le.mpr hlong)

end FrontLint
