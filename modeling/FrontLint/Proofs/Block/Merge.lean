/-
  FrontLint.Proofs.Block.Merge — the spans of a component, merged from the readings of its two tags.

  The regions of both tags are put in order by where their bodies start, a script before a style at
  the same place (`Earlier`). Going through them, each one is kept that does not start before the
  end of the last one kept. Proved:
  - `merged_pairwise`: the order is strict.
  - `keepDisjoint_pairwise`, `keepDisjoint_covers`: what is kept does not overlap, and what is
    dropped starts in an earlier one that is kept.
  - `keepDisjoint_eq`: these two facts say which regions are kept.
  - `spans_pairwise` / `spans_bounds`: the spans of a component are well formed.
  - `fenced_of_mem_spans`: their bodies stand between the marks of their tags.
-/

import FrontLint.Proofs.Block.Reading
import Mathlib.Data.List.Pairwise

namespace FrontLint.Component

open FrontLint.Block

theorem rel_or_rel_of_pairwise {α : Type} {r : α → α → Prop} {l : List α} (h : l.Pairwise r) {a b : α}
    (ha : a ∈ l) (hb : b ∈ l) (hne : a ≠ b) : r a b ∨ r b a := by
  have hsymm : Std.Symm fun x y => r x y ∨ r y x := ⟨fun _ _ => Or.symm⟩
  have hor : l.Pairwise fun x y => r x y ∨ r y x := h.imp .inl
  exact hor.forall ha hb hne

/-! ## The regions of a tag in order -/

theorem blockSpans_closes (kind : BlockKind) (t : Text) {s : Span} (h : s ∈ Block.spans kind.tag t) :
    ∃ o, IsBlock t kind.tag o s := by
  obtain ⟨fs, hr, he⟩ := spans_reads BlockKind.tag kind (plainName_tag kind) t
  rw [← he] at h
  obtain ⟨f, hf, rfl⟩ := List.mem_map.mp h
  obtain ⟨-, hb, hk⟩ := hr.of_mem plainName_tag hf
  rw [List.mem_singleton.mp hk] at hb
  exact ⟨f.place, hb⟩

theorem blockSpans_pairwise (kind : BlockKind) (t : Text) :
    (Block.spans kind.tag t).Pairwise fun a b => a.closeEnd < b.start := by
  obtain ⟨fs, hr, he⟩ := spans_reads BlockKind.tag kind (plainName_tag kind) t
  rw [← he, List.pairwise_map]
  refine (hr.separated plainName_tag).imp_of_mem ?_
  intro f g _ hg hfg
  have := (hr.of_mem plainName_tag hg).2.1.place_lt (plainName_tag g.kind)
  omega

/-! ## The regions of both tags in order -/

/-- `a` comes before `b`: its body starts earlier, or at the same place and `a` is the script. -/
def Earlier (a b : BlockKind × Span) : Prop :=
  a.2.start < b.2.start ∨ a.2.start = b.2.start ∧ a.1 = .script ∧ b.1 = .style

theorem Earlier.irrefl {a : BlockKind × Span} (h : Earlier a a) : False := by
  rcases h with h | ⟨-, h1, h2⟩
  · omega
  · rw [h1] at h2
    cases h2

theorem Earlier.ne {a b : BlockKind × Span} (h : Earlier a b) : a ≠ b := by
  rintro rfl
  exact h.irrefl

theorem Earlier.asymm {a b : BlockKind × Span} (h : Earlier a b) (h' : Earlier b a) : False := by
  rcases h with h | ⟨he, h1, h2⟩
  · rcases h' with h' | ⟨he', -, -⟩ <;> omega
  · rcases h' with h' | ⟨-, h3, -⟩
    · omega
    · rw [h2] at h3
      cases h3

theorem Earlier.start_le {a b : BlockKind × Span} (h : Earlier a b) : a.2.start ≤ b.2.start := by
  rcases h with h | ⟨h, -, -⟩ <;> omega

/-- The regions of the two tags, those of the scripts first. -/
def found (t : Text) : List (BlockKind × Span) :=
  (Block.spans BlockKind.script.tag t).map (.script, ·) ++ (Block.spans BlockKind.style.tag t).map (.style, ·)

def merged (t : Text) : List (BlockKind × Span) :=
  (found t).mergeSort fun a b => a.2.start ≤ b.2.start

theorem spans_eq_keepDisjoint (t : Text) : spans t = keepDisjoint 0 (merged t) := by
  simp [spans, merged, found]

theorem spans_of_found {t : Text} {l : List (BlockKind × Span)} (hf : found t = l)
    (hl : l.Pairwise fun a b => a.2.start ≤ b.2.start) : spans t = keepDisjoint 0 l := by
  rw [spans_eq_keepDisjoint, merged, hf, List.mergeSort_of_pairwise (by simpa using hl)]

theorem mem_found {t : Text} {b : BlockKind × Span} : b ∈ found t ↔ b.2 ∈ Block.spans b.1.tag t := by
  obtain ⟨kind, s⟩ := b
  cases kind <;> simp [found]

theorem mem_merged {t : Text} {b : BlockKind × Span} : b ∈ merged t ↔ b.2 ∈ Block.spans b.1.tag t := by
  rw [merged, List.mem_mergeSort, mem_found]

theorem found_pairwise (t : Text) : (found t).Pairwise fun a b =>
    a.1 = b.1 ∧ a.2.start < b.2.start ∨ a.1 = .script ∧ b.1 = .style := by
  have one : ∀ kind : BlockKind, ((Block.spans kind.tag t).map (kind, ·)).Pairwise fun a b =>
      a.1 = b.1 ∧ a.2.start < b.2.start ∨ a.1 = .script ∧ b.1 = .style := by
    intro kind
    rw [List.pairwise_map]
    refine (blockSpans_pairwise kind t).imp_of_mem ?_
    intro a b ha _ hab
    obtain ⟨o, hb⟩ := blockSpans_closes kind t ha
    have := hb.start_le_closeEnd
    exact .inl ⟨rfl, show a.start < b.start by omega⟩
  refine List.pairwise_append.mpr ⟨one .script, one .style, ?_⟩
  intro a ha b hb
  obtain ⟨_, _, rfl⟩ := List.mem_map.mp ha
  obtain ⟨_, _, rfl⟩ := List.mem_map.mp hb
  exact .inr ⟨rfl, rfl⟩

/-- Two members of a list without repetitions do not stand in both orders. -/
theorem not_both_orders {α : Type} {l : List α} (hl : l.Nodup) {a b : α} (hab : [a, b].Sublist l)
    (hba : [b, a].Sublist l) : False := by
  induction l with
  | nil => cases hab
  | cons c l ih =>
    obtain ⟨hc, hl⟩ := List.nodup_cons.mp hl
    cases hab with
    | cons _ hab =>
      cases hba with
      | cons _ hba => exact ih hl hab hba
      | cons_cons _ _ => exact hc (hab.subset (by simp))
    | cons_cons _ hb =>
      cases hba with
      | cons _ hba => exact hc (hba.subset (by simp))
      | cons_cons _ _ => exact hc (hb.subset (by simp))

/-- Two members of a list stand in one order or the other. -/
theorem either_order {α : Type} {l : List α} {a b : α} (ha : a ∈ l) (hb : b ∈ l) (hne : a ≠ b) :
    [a, b].Sublist l ∨ [b, a].Sublist l := by
  obtain ⟨x, y, rfl⟩ := List.append_of_mem ha
  rcases List.mem_append.mp hb with hb | hb
  · exact .inr ((List.singleton_sublist.mpr hb).append (List.singleton_sublist.mpr (by simp)))
  · rcases List.mem_cons.mp hb with rfl | hb
    · exact absurd rfl hne
    · exact .inl (((List.singleton_sublist.mpr hb).cons_cons a).trans (List.sublist_append_right _ _))

theorem merged_nodup (t : Text) : (merged t).Nodup := by
  rw [merged, (List.mergeSort_perm _ _).nodup_iff]
  refine (found_pairwise t).imp ?_
  rintro a b h rfl
  rcases h with ⟨-, h⟩ | ⟨h1, h2⟩
  · omega
  · rw [h1] at h2
    cases h2

/-- The order of the merged regions is strict. -/
theorem merged_pairwise (t : Text) : (merged t).Pairwise Earlier := by
  have htrans : ∀ a b c : BlockKind × Span, decide (a.2.start ≤ b.2.start) = true →
      decide (b.2.start ≤ c.2.start) = true → decide (a.2.start ≤ c.2.start) = true := by
    intro a b c h1 h2
    simp only [decide_eq_true_eq] at *
    omega
  have htotal : ∀ a b : BlockKind × Span,
      (decide (a.2.start ≤ b.2.start) || decide (b.2.start ≤ a.2.start)) = true := by
    intro a b
    simp only [Bool.or_eq_true, decide_eq_true_eq]
    omega
  rw [List.pairwise_iff_forall_sublist]
  intro a b hab
  have hle : a.2.start ≤ b.2.start := by
    have := List.pairwise_iff_forall_sublist.mp (List.pairwise_mergeSort htrans htotal (found t)) hab
    simpa using this
  have hne : a ≠ b := List.pairwise_iff_forall_sublist.mp (merged_nodup t) hab
  rcases Nat.lt_or_eq_of_le hle with hlt | heq
  · exact .inl hlt
  · -- At the same start the sort keeps the order of `found`, where scripts come first.
    have ha : a ∈ found t := mem_found.mpr (mem_merged.mp (hab.subset (by simp)))
    have hb : b ∈ found t := mem_found.mpr (mem_merged.mp (hab.subset (by simp)))
    rcases either_order ha hb hne with hord | hord
    · rcases List.pairwise_iff_forall_sublist.mp (found_pairwise t) hord with ⟨-, h⟩ | h
      · omega
      · exact .inr ⟨heq, h⟩
    · have := List.pair_sublist_mergeSort htrans htotal (by simp [heq]) hord
      exact (not_both_orders (merged_nodup t) hab this).elim

/-! ## What is kept -/

theorem keepDisjoint_sublist (limit : Nat) (l : List (BlockKind × Span)) :
    (keepDisjoint limit l).Sublist l := by
  fun_induction keepDisjoint limit l with
  | case1 => exact .slnil
  | case2 limit kind s rest hs ih => exact ih.cons _
  | case3 limit kind s rest hs ih => exact ih.cons_cons _

theorem le_start_of_mem_keepDisjoint {limit : Nat} {l : List (BlockKind × Span)} {b : BlockKind × Span}
    (hl : ∀ a ∈ l, a.2.start ≤ a.2.closeEnd) (hb : b ∈ keepDisjoint limit l) : limit ≤ b.2.start := by
  fun_induction keepDisjoint limit l with
  | case1 => simp at hb
  | case2 limit kind s rest hs ih => exact ih (fun a ha => hl a (List.mem_cons_of_mem _ ha)) hb
  | case3 limit kind s rest hs ih =>
    rcases List.mem_cons.mp hb with rfl | hb
    · exact Nat.le_of_not_lt hs
    · have h1 := ih (fun a ha => hl a (List.mem_cons_of_mem _ ha)) hb
      have h2 : s.start ≤ s.closeEnd := hl (kind, s) List.mem_cons_self
      omega

/-- What is kept does not overlap. -/
theorem keepDisjoint_pairwise {limit : Nat} {l : List (BlockKind × Span)}
    (hl : ∀ a ∈ l, a.2.start ≤ a.2.closeEnd) :
    (keepDisjoint limit l).Pairwise fun a b => a.2.closeEnd ≤ b.2.start := by
  fun_induction keepDisjoint limit l with
  | case1 => exact .nil
  | case2 limit kind s rest hs ih => exact ih fun a ha => hl a (List.mem_cons_of_mem _ ha)
  | case3 limit kind s rest hs ih =>
    have hrest : ∀ a ∈ rest, a.2.start ≤ a.2.closeEnd := fun a ha => hl a (List.mem_cons_of_mem _ ha)
    exact .cons (fun b hb => le_start_of_mem_keepDisjoint hrest hb) (ih hrest)

/-- What is dropped starts before the limit, or in an earlier one that is kept. -/
theorem keepDisjoint_covers (limit : Nat) {l : List (BlockKind × Span)} (hl : l.Pairwise Earlier)
    {a : BlockKind × Span} (ha : a ∈ l) :
    a ∈ keepDisjoint limit l ∨ a.2.start < limit ∨
      ∃ b ∈ keepDisjoint limit l, Earlier b a ∧ a.2.start < b.2.closeEnd := by
  fun_induction keepDisjoint limit l with
  | case1 => simp at ha
  | case2 limit kind s rest hs ih =>
    obtain ⟨-, hrest⟩ := List.pairwise_cons.mp hl
    rcases List.mem_cons.mp ha with rfl | ha
    · exact .inr (.inl hs)
    · exact ih hrest ha
  | case3 limit kind s rest hs ih =>
    obtain ⟨hfirst, hrest⟩ := List.pairwise_cons.mp hl
    rcases List.mem_cons.mp ha with rfl | ha
    · exact .inl List.mem_cons_self
    · rcases ih hrest ha with h | h | ⟨b, hb, h⟩
      · exact .inl (List.mem_cons_of_mem _ h)
      · exact .inr (.inr ⟨(kind, s), List.mem_cons_self, hfirst a ha, h⟩)
      · exact .inr (.inr ⟨b, List.mem_cons_of_mem _ hb, h⟩)

/-- A choice of regions that do not overlap and cover all others is the one made. -/
theorem keepDisjoint_eq {limit : Nat} {l kept : List (BlockKind × Span)} (hl : l.Pairwise Earlier)
    (hsub : kept.Sublist l) (hlimit : ∀ b ∈ kept, limit ≤ b.2.start)
    (hsep : kept.Pairwise fun a b => a.2.closeEnd ≤ b.2.start)
    (hcov : ∀ a ∈ l, a ∈ kept ∨ a.2.start < limit ∨ ∃ b ∈ kept, Earlier b a ∧ a.2.start < b.2.closeEnd) :
    keepDisjoint limit l = kept := by
  fun_induction keepDisjoint limit l generalizing kept with
  | case1 => exact (List.sublist_nil.mp hsub).symm
  | case2 limit kind s rest hs ih =>
    obtain ⟨-, hrest⟩ := List.pairwise_cons.mp hl
    rcases List.sublist_cons_iff.mp hsub with hsub | ⟨r, rfl, -⟩
    · exact ih hrest hsub hlimit hsep fun a ha => hcov a (List.mem_cons_of_mem _ ha)
    · have : limit ≤ s.start := hlimit (kind, s) List.mem_cons_self
      omega
  | case3 limit kind s rest hs ih =>
    obtain ⟨hfirst, hrest⟩ := List.pairwise_cons.mp hl
    rcases List.sublist_cons_iff.mp hsub with hsub | ⟨r, rfl, hr⟩
    · -- The first region comes before every other one, so nothing in `kept` covers it.
      rcases hcov (kind, s) List.mem_cons_self with h | h | ⟨b, hb, h, -⟩
      · exact (hfirst _ (hsub.subset h)).irrefl.elim
      · exact absurd h hs
      · exact ((hfirst b (hsub.subset hb)).asymm h).elim
    · obtain ⟨hsep1, hsep2⟩ := List.pairwise_cons.mp hsep
      rw [ih hrest hr hsep1 hsep2]
      intro a ha
      rcases hcov a (List.mem_cons_of_mem _ ha) with h | h | ⟨b, hb, h⟩
      · rcases List.mem_cons.mp h with rfl | h
        · exact (hfirst _ ha).irrefl.elim
        · exact .inl h
      · have := (hfirst a ha).start_le
        exact absurd (show s.start < limit by simp only at this; omega) hs
      · rcases List.mem_cons.mp hb with rfl | hb
        · exact .inr (.inl h.2)
        · exact .inr (.inr ⟨b, hb, h⟩)

/-! ## The spans of a component -/

theorem mem_blockSpans_of_mem_spans {t : Text} {b : BlockKind × Span} (h : b ∈ spans t) :
    b.2 ∈ Block.spans b.1.tag t := by
  rw [spans_eq_keepDisjoint] at h
  exact mem_merged.mp ((keepDisjoint_sublist 0 _).subset h)

theorem spans_nodup (t : Text) : (spans t).Nodup := by
  rw [spans_eq_keepDisjoint]
  exact ((merged_pairwise t).imp Earlier.ne).sublist (keepDisjoint_sublist 0 _)

/-- A span of a component lies in the text, its body before its closing tag. -/
theorem spans_bounds {t : Text} {b : BlockKind × Span} (h : b ∈ spans t) :
    b.2.start ≤ b.2.stop ∧ b.2.stop ≤ b.2.closeEnd ∧ b.2.closeEnd ≤ t.length := by
  obtain ⟨o, hb⟩ := blockSpans_closes b.1 t (mem_blockSpans_of_mem_spans h)
  exact ⟨hb.start_le, hb.stop_le, hb.closeEnd_le (plainName_tag b.1)⟩

theorem start_le_closeEnd_of_mem_merged {t : Text} {a : BlockKind × Span} (ha : a ∈ merged t) :
    a.2.start ≤ a.2.closeEnd := by
  obtain ⟨o, hb⟩ := blockSpans_closes a.1 t (mem_merged.mp ha)
  exact hb.start_le_closeEnd

/-- The spans of a component do not overlap. -/
theorem spans_pairwise (t : Text) : (spans t).Pairwise fun a b => a.2.closeEnd ≤ b.2.start := by
  rw [spans_eq_keepDisjoint]
  exact keepDisjoint_pairwise fun a ha => start_le_closeEnd_of_mem_merged ha

/-! ## What stands around a body -/

/-- A body stands between a `>` and a `<`, or the end of the text. -/
structure Fenced (t : Text) (s : Span) : Prop where
  start_pos : 0 < s.start
  start_le : s.start ≤ s.stop
  gt_before : t[s.start - 1]? = some '>'
  lt_behind : ∀ c, t[s.stop]? = some c → c = '<'

/-- The bodies of a component stand between tags. -/
theorem fenced_of_mem_spans {t : Text} {b : BlockKind × Span} (h : b ∈ spans t) :
    Fenced t b.2 := by
  obtain ⟨o, hb⟩ := blockSpans_closes b.1 t (mem_blockSpans_of_mem_spans h)
  have hplace := hb.place_lt (plainName_tag b.1)
  refine ⟨by omega, hb.start_le, ?_, ?_⟩
  · have hgt := (hb.runsToGt (plainName_tag b.1)).gt_last
    rwa [Nat.add_sub_cancel' (Nat.le_of_lt hplace)] at hgt
  · intro c hc
    rcases hb.close with ⟨n, hn, -⟩ | ⟨hend, -⟩
    · obtain ⟨w, r, hw, -, -⟩ := closeLength?_eq_some (plainName_tag b.1) hn
      rw [← List.head?_drop, hw] at hc
      exact (Option.some.inj hc).symm
    · rw [hend, List.getElem?_eq_none (Nat.le_refl _)] at hc
      cases hc

/-- A body starts behind the closing tag of the one before it. Only behind a body that is never closed
there is no such tag: the next one is empty then, at the end of the text. -/
theorem stop_lt_start {t : Text} {a b : BlockKind × Span} (ha : a ∈ spans t) (hb : b ∈ spans t)
    (hab : a.2.closeEnd ≤ b.2.start) :
    a.2.stop < b.2.start ∨ a.2.stop = b.2.start ∧ t.length ≤ b.2.start := by
  obtain ⟨o, hblock⟩ := blockSpans_closes a.1 t (mem_blockSpans_of_mem_spans ha)
  obtain ⟨h1, h2, h3⟩ := spans_bounds hb
  rcases hblock.close with ⟨n, hn, hclose⟩ | ⟨hend, hclose⟩
  · have := (runsToGt_of_closeLength? (plainName_tag a.1) hn).two_le
    exact .inl (by omega)
  · exact .inr (by omega)

end FrontLint.Component
