/-
  FrontLint.Proofs.Block.Reading — reading a text from left to right for the blocks of some kinds of
  tag, by places of the whole text.

  `IsBlock` says of one region that it is the block of the opening tag at a place. `Reads` is the
  reading: take the first opening tag at or after a place, pass over it if it is self-closing, else
  take its block and go on behind the closing tag. Proved, for names that are plain:
  - `Reads.separated`: blocks come one after the other, each behind the closing tag before it.
  - `Reads.covers`: a tag that could open a block opens one, or stands in one.
  - `spans_reads`: the regions of one tag are read so.
-/

import FrontLint.Proofs.Block.Tag

namespace FrontLint.Block

open FrontLint.Text

/-! ## One block -/

/-- The body from `s.start` on ends at the first closing tag, or with the text. -/
structure Closes (t name : Text) (s : Span) : Prop where
  start_le : s.start ≤ s.stop
  no_close : ∀ j, s.start ≤ j → j < s.stop → closeLength? name (t.drop j) = none
  close : (∃ n, closeLength? name (t.drop s.stop) = some n ∧ s.closeEnd = s.stop + n) ∨
    s.stop = t.length ∧ s.closeEnd = t.length

/-- `s` is the block of the opening tag at place `o`. -/
structure IsBlock (t name : Text) (o : Nat) (s : Span) : Prop extends Closes t name s where
  place_le : o ≤ s.start
  opens : openLength? name (t.drop o) = some (s.start - o)
  stays : isSelfClosing ((t.drop o).take (s.start - o)) = false

theorem closeLength?_nil (name : Text) : closeLength? name [] = none := rfl

theorem closeLength?_drop_length_le (t name : Text) {j : Nat} (h : t.length ≤ j) :
    closeLength? name (t.drop j) = none := by
  rw [List.drop_eq_nil_of_le h, closeLength?_nil]

/-- Where a body starts says where it ends. -/
theorem Closes.unique {t name : Text} {s s' : Span} (h : Closes t name s) (h' : Closes t name s')
    (he : s.start = s'.start) : s = s' := by
  have not_before : ∀ {u v : Span}, Closes t name u → Closes t name v → u.start = v.start →
      ¬ u.stop < v.stop := by
    intro u v hu hv huv hlt
    rcases hu.close with ⟨n, hn, -⟩ | ⟨hend, -⟩
    · rw [hv.no_close u.stop (by have := hu.start_le; omega) hlt] at hn
      cases hn
    · rcases hv.close with ⟨n, hn, -⟩ | ⟨hend', -⟩
      · rw [closeLength?_drop_length_le t name (by omega)] at hn
        cases hn
      · omega
  have hstop : s.stop = s'.stop := by
    have h1 := not_before h h' he
    have h2 := not_before h' h he.symm
    omega
  have hclose : s.closeEnd = s'.closeEnd := by
    rcases h.close with ⟨n, hn, hs⟩ | ⟨hend, hs⟩
    · rcases h'.close with ⟨n', hn', hs'⟩ | ⟨hend', hs'⟩
      · rw [hstop, hn'] at hn
        cases hn
        omega
      · rw [closeLength?_drop_length_le t name (by omega)] at hn
        cases hn
    · rcases h'.close with ⟨n', hn', hs'⟩ | ⟨hend', hs'⟩
      · rw [closeLength?_drop_length_le t name (by omega)] at hn'
        cases hn'
      · omega
  cases s
  cases s'
  simp_all

theorem Closes.stop_le {t name : Text} {s : Span} (h : Closes t name s) : s.stop ≤ s.closeEnd := by
  rcases h.close with ⟨n, -, he⟩ | ⟨h1, h2⟩ <;> omega

theorem Closes.start_le_closeEnd {t name : Text} {s : Span} (h : Closes t name s) : s.start ≤ s.closeEnd :=
  Nat.le_trans h.start_le h.stop_le

theorem Closes.closeEnd_le {t name : Text} {s : Span} (hp : PlainName name) (h : Closes t name s) :
    s.closeEnd ≤ t.length := by
  rcases h.close with ⟨n, hn, he⟩ | ⟨h1, h2⟩
  · have := (runsToGt_of_closeLength? hp hn).end_le
    omega
  · omega

theorem IsBlock.runsToGt {t name : Text} {o : Nat} {s : Span} (hp : PlainName name)
    (h : IsBlock t name o s) : RunsToGt t o (s.start - o) :=
  runsToGt_of_openLength? hp h.opens

theorem IsBlock.place_lt {t name : Text} {o : Nat} {s : Span} (hp : PlainName name)
    (h : IsBlock t name o s) : o < s.start := by
  have := (h.runsToGt hp).two_le
  omega

/-! ## The reading -/

/-- A block with its kind and the place of its opening tag. -/
structure Found (κ : Type) where
  place : Nat
  kind : κ
  span : Span

section Reading

variable {κ : Type} (tag : κ → Text)

/-- The opening tag of one of `kinds` at the start of a text, with its length. -/
def opening? (kinds : List κ) (t : Text) : Option (κ × Nat) :=
  kinds.findSome? fun kind => (openLength? (tag kind) t).map (kind, ·)

theorem opening?_eq_some {kinds : List κ} {t : Text} {kind : κ} {n : Nat}
    (h : opening? tag kinds t = some (kind, n)) : kind ∈ kinds ∧ openLength? (tag kind) t = some n := by
  obtain ⟨k, hk, hm⟩ := List.exists_of_findSome?_eq_some h
  obtain ⟨m, hm, he⟩ := Option.map_eq_some_iff.mp hm
  cases he
  exact ⟨hk, hm⟩

theorem opening?_nil (kinds : List κ) : opening? tag kinds [] = none := by
  unfold opening?
  rw [List.findSome?_eq_none_iff]
  intro k _
  rfl

theorem opening?_singleton (kind : κ) (t : Text) :
    opening? tag [kind] t = (openLength? (tag kind) t).map (kind, ·) := by
  cases h : openLength? (tag kind) t <;> simp [opening?, h]

/-- The first opening tag at or after place `i` is at `o`, of this kind and length. -/
structure FirstOpening (kinds : List κ) (t : Text) (i o : Nat) (kind : κ) (n : Nat) : Prop where
  le : i ≤ o
  none_before : ∀ j, i ≤ j → j < o → opening? tag kinds (t.drop j) = none
  here : opening? tag kinds (t.drop o) = some (kind, n)

inductive Reads (kinds : List κ) (t : Text) : Nat → List (Found κ) → Prop
  | done {i : Nat} : (∀ o, i ≤ o → opening? tag kinds (t.drop o) = none) → Reads kinds t i []
  | skip {i o n : Nat} {kind : κ} {fs : List (Found κ)} : FirstOpening tag kinds t i o kind n →
      isSelfClosing ((t.drop o).take n) = true → Reads kinds t (o + n) fs → Reads kinds t i fs
  | block {i n : Nat} {f : Found κ} {fs : List (Found κ)} :
      FirstOpening tag kinds t i f.place f.kind n → IsBlock t (tag f.kind) f.place f.span →
      Reads kinds t f.span.closeEnd fs → Reads kinds t i (f :: fs)

namespace Reads

variable {tag} {kinds : List κ} {t : Text} {i : Nat} {fs : List (Found κ)}

theorem of_mem (hp : ∀ k, PlainName (tag k)) (h : Reads tag kinds t i fs) {f : Found κ} (hf : f ∈ fs) :
    i ≤ f.place ∧ IsBlock t (tag f.kind) f.place f.span ∧ f.kind ∈ kinds := by
  induction h with
  | done _ => simp at hf
  | skip ho _ _ ih =>
    obtain ⟨h1, h2⟩ := ih hf
    exact ⟨by have := ho.le; omega, h2⟩
  | block ho hb _ ih =>
    rcases List.mem_cons.mp hf with rfl | hf
    · exact ⟨ho.le, hb, (opening?_eq_some tag ho.here).1⟩
    · obtain ⟨h1, h2⟩ := ih hf
      have h3 := hb.place_lt (hp _)
      have h4 := hb.start_le_closeEnd
      exact ⟨by have := ho.le; omega, h2⟩

/-- Blocks come one after the other. -/
theorem separated (hp : ∀ k, PlainName (tag k)) (h : Reads tag kinds t i fs) :
    fs.Pairwise fun f g => f.span.closeEnd ≤ g.place := by
  induction h with
  | done _ => exact .nil
  | skip _ _ _ ih => exact ih
  | block _ _ hr ih => exact .cons (fun g hg => (hr.of_mem hp hg).1) ih

/-- A tag that could open a block opens one, or stands in one. -/
theorem covers (hp : ∀ k, PlainName (tag k)) (h : Reads tag kinds t i fs) {o n : Nat} {kind : κ}
    (hi : i ≤ o) (ho : opening? tag kinds (t.drop o) = some (kind, n))
    (hs : isSelfClosing ((t.drop o).take n) = false) :
    ∃ f ∈ fs, f.place ≤ o ∧ o < f.span.closeEnd := by
  have hrun := runsToGt_of_openLength? (hp kind) (opening?_eq_some tag ho).2
  induction h with
  | done hnone =>
    rw [hnone o hi] at ho
    cases ho
  | @skip i p m k fs hfirst hself _ ih =>
    have hpo : p ≤ o := by
      apply Classical.byContradiction
      intro hlt
      rw [hfirst.none_before o hi (by omega)] at ho
      cases ho
    by_cases hin : o < p + m
    · have hrun' := runsToGt_of_openLength? (hp k) (opening?_eq_some tag hfirst.here).2
      rw [hrun'.isSelfClosing_eq hrun hpo hin, hs] at hself
      cases hself
    · exact ih (by omega)
  | @block i m f fs hfirst hb _ ih =>
    have hpo : f.place ≤ o := by
      apply Classical.byContradiction
      intro hlt
      rw [hfirst.none_before o hi (by omega)] at ho
      cases ho
    by_cases hin : o < f.span.closeEnd
    · exact ⟨f, by simp, hpo, hin⟩
    · obtain ⟨g, hg, h1, h2⟩ := ih (by omega)
      exact ⟨g, List.mem_cons_of_mem _ hg, h1, h2⟩

/-- The reading may start earlier, where nothing opens. -/
theorem of_succ (hi : opening? tag kinds (t.drop i) = none) (h : Reads tag kinds t (i + 1) fs) :
    Reads tag kinds t i fs := by
  have earlier : ∀ {o : Nat} {kind : κ} {n : Nat}, FirstOpening tag kinds t (i + 1) o kind n →
      FirstOpening tag kinds t i o kind n := by
    intro o kind n ho
    refine ⟨by have := ho.le; omega, fun j hj hlt => ?_, ho.here⟩
    rcases Nat.eq_or_lt_of_le hj with rfl | hj
    · exact hi
    · exact ho.none_before j hj hlt
  cases h with
  | done hnone =>
    refine .done fun o ho => ?_
    rcases Nat.eq_or_lt_of_le ho with rfl | ho
    · exact hi
    · exact hnone o ho
  | skip ho hs hr => exact .skip (earlier ho) hs hr
  | block ho hb hr => exact .block (earlier ho) hb hr

end Reads

/-! ## The regions of one tag -/

/-- What is left behind place `i`, one character further on. -/
theorem drop_succ_of_cons {t u : Text} {i : Nat} {c : Char} (h : t.drop i = c :: u) :
    i < t.length ∧ t.drop (i + 1) = u := by
  refine ⟨?_, by rw [← List.tail_drop, h, List.tail_cons]⟩
  apply Classical.byContradiction
  intro hle
  rw [List.drop_eq_nil_of_le (by omega)] at h
  cases h

theorem spansFrom_skip (name : Text) (body : Option Nat) {skip i : Nat} {u : Text}
    (h : skip ≤ u.length) :
    spansFrom name body skip i u = spansFrom name body 0 (i + skip) (u.drop skip) := by
  induction u generalizing skip i with
  | nil =>
    have : skip = 0 := by simpa using h
    subst this
    rfl
  | cons c u ih =>
    rcases skip with _ | skip
    · rfl
    · have hs : spansFrom name body (skip + 1) i (c :: u) = spansFrom name body skip (i + 1) u := by
        cases body <;> rfl
      rw [hs, ih (by simpa using h), List.drop_succ_cons, show i + 1 + skip = i + (skip + 1) by omega]

/-- Passing over the rest of a tag whose first character has been read. -/
theorem spansFrom_tag (name : Text) (body : Option Nat) {t u : Text} {c : Char} {i n : Nat}
    (hd : t.drop i = c :: u) (hn : 0 < n) (hle : i + n ≤ t.length) :
    spansFrom name body (n - 1) (i + 1) u = spansFrom name body 0 (i + n) (t.drop (i + n)) := by
  have hlen : u.length + 1 = t.length - i := by
    rw [← List.length_drop, hd, List.length_cons]
  have hdrop : u.drop (n - 1) = t.drop (i + n) := by
    rw [← List.drop_drop, hd]
    obtain ⟨m, rfl⟩ := Nat.exists_eq_succ_of_ne_zero (Nat.ne_of_gt hn)
    rfl
  rw [spansFrom_skip name body (by omega), hdrop, show i + 1 + (n - 1) = i + n by omega]

/-- Inside a body the reading comes to its closing tag, or to the end. -/
theorem spansFrom_body {name t : Text} (hp : PlainName name) {start i : Nat} (hs : start ≤ i)
    (hi : i ≤ t.length)
    (hno : ∀ j, start ≤ j → j < i → closeLength? name (t.drop j) = none) :
    ∃ s : Span, s.start = start ∧ Closes t name s ∧ i ≤ s.closeEnd ∧
      spansFrom name (some start) 0 i (t.drop i) =
        s :: spansFrom name none 0 s.closeEnd (t.drop s.closeEnd) := by
  induction hd : t.drop i generalizing i with
  | nil =>
    have hlen : i = t.length := by
      have := List.drop_eq_nil_iff.mp hd
      omega
    subst hlen
    refine ⟨⟨start, t.length, t.length⟩, rfl, ⟨hs, hno, .inr ⟨rfl, rfl⟩⟩, Nat.le_refl _, ?_⟩
    simp [spansFrom]
  | cons c u ih =>
    obtain ⟨hlt, hu⟩ := drop_succ_of_cons hd
    rcases hc : closeLength? name (c :: u) with _ | n
    · have hno' : ∀ j, start ≤ j → j < i + 1 → closeLength? name (t.drop j) = none := by
        intro j h1 h2
        rcases Nat.eq_or_lt_of_le (Nat.le_of_lt_succ h2) with rfl | h2
        · rw [hd, hc]
        · exact hno j h1 h2
      obtain ⟨s, h1, h2, h3, h4⟩ := ih (by omega) (by omega) hno' hu
      refine ⟨s, h1, h2, by omega, ?_⟩
      rw [spansFrom, hc]
      exact h4
    · have hclose : closeLength? name (t.drop i) = some n := by rw [hd, hc]
      have hrun := runsToGt_of_closeLength? hp hclose
      have h2 := hrun.two_le
      have hle := hrun.end_le
      refine ⟨⟨start, i, i + n⟩, rfl, ⟨hs, hno, .inl ⟨n, hclose, rfl⟩⟩, by simp, ?_⟩
      rw [spansFrom, hc]
      simp only
      rw [spansFrom_tag name none hd (by omega) hle]

/-- The regions of one tag are those of its reading. -/
theorem spansFrom_reads (kind : κ) (hp : PlainName (tag kind)) (t : Text) {i : Nat} (hi : i ≤ t.length) :
    ∃ fs, Reads tag [kind] t i fs ∧
      fs.map (·.span) = spansFrom (tag kind) none 0 i (t.drop i) := by
  induction hm : t.length - i using Nat.strongRecOn generalizing i with
  | _ m ih =>
  rcases hd : t.drop i with _ | ⟨c, u⟩
  · refine ⟨[], .done fun o ho => ?_, by rw [spansFrom]; rfl⟩
    have := List.drop_eq_nil_iff.mp hd
    rw [List.drop_eq_nil_of_le (by omega), opening?_nil]
  · obtain ⟨hlt, hu⟩ := drop_succ_of_cons hd
    rcases ho : openLength? (tag kind) (c :: u) with _ | n
    · obtain ⟨fs, hr, he⟩ := ih (t.length - (i + 1)) (by omega) (by omega) rfl
      refine ⟨fs, hr.of_succ (by rw [opening?_singleton, hd, ho]; rfl), ?_⟩
      rw [he, hu, spansFrom, ho]
    · have hopen : openLength? (tag kind) (t.drop i) = some n := by rw [hd, ho]
      have hrun := runsToGt_of_openLength? hp hopen
      have h2 := hrun.two_le
      have hle := hrun.end_le
      have hfirst : FirstOpening tag [kind] t i i kind n :=
        ⟨Nat.le_refl _, fun j h1 h2 => by omega, by rw [opening?_singleton, hopen]; rfl⟩
      rw [spansFrom, ho]
      simp only
      by_cases hs : isSelfClosing ((c :: u).take n) = true
      · obtain ⟨fs, hr, he⟩ := ih (t.length - (i + n)) (by omega) (by omega) rfl
        refine ⟨fs, .skip hfirst (by rw [hd, hs]) hr, ?_⟩
        rw [he, if_pos hs, spansFrom_tag _ _ hd (by omega) hle]
      · obtain ⟨s, h3, h4, h5, h6⟩ := spansFrom_body hp (Nat.le_refl (i + n)) hle (fun j h1 h2 => by omega)
        obtain ⟨fs, hr, he⟩ := ih (t.length - s.closeEnd) (by omega) (h4.closeEnd_le hp) rfl
        have hb : IsBlock t (tag kind) i s := by
          refine ⟨h4, by omega, ?_, ?_⟩
          · rw [h3, hopen]
            congr 1
            omega
          · rw [h3, hd, show i + n - i = n by omega]
            simpa using hs
        refine ⟨⟨i, kind, s⟩ :: fs, .block hfirst hb hr, ?_⟩
        rw [if_neg hs, spansFrom_tag _ _ hd (by omega) hle, h6, List.map_cons, he]

theorem spans_reads (kind : κ) (hp : PlainName (tag kind)) (t : Text) :
    ∃ fs, Reads tag [kind] t 0 fs ∧ fs.map (·.span) = spans (tag kind) t := by
  simpa [spans] using spansFrom_reads tag kind hp t (Nat.zero_le _)

end Reading

end FrontLint.Block
