/-
  FrontLint.Proofs.Block.Sequential — the blocks of a component in one reading from left to right,
  and when the spans merged from two readings are those.

  `sequential` takes the first opening tag of either kind, reads its body up to the first closing tag
  of that kind and goes on behind it. The spans of a component come from reading each kind alone, so
  a tag inside a block of the other kind is not seen as part of it. Such a reading can find regions
  that are no blocks (`Stray`). Proved:
  - `sequential_reads`: `sequential` is the reading of both kinds.
  - `spans_eq_sequential_iff`: the merged spans are its blocks exactly when every stray region
    starts in an earlier block and is closed before the next block of its own kind starts.
  - `two_readings_differ`: either condition can fail, so that a block is lost or one too many is kept.
-/

import FrontLint.Proofs.Block.Merge
import Mathlib.Data.List.Sort

namespace FrontLint.Block

/-- The first place at which `find` finds something; `t` is the text from place `i` on. -/
def firstAt? {α : Type} (find : Text → Option α) (i : Nat) : Text → Option (Nat × α)
  | [] => (find []).map (i, ·)
  | c :: t =>
    match find (c :: t) with
    | some a => some (i, a)
    | none => firstAt? find (i + 1) t

section FirstAt

variable {α : Type} {find : Text → Option α} {t : Text} {i : Nat}

theorem firstAt?_eq_some {o : Nat} {a : α} (h : firstAt? find i (t.drop i) = some (o, a)) :
    i ≤ o ∧ (∀ j, i ≤ j → j < o → find (t.drop j) = none) ∧ find (t.drop o) = some a := by
  induction hd : t.drop i generalizing i with
  | nil =>
    rw [hd, firstAt?] at h
    obtain ⟨b, hb, he⟩ := Option.map_eq_some_iff.mp h
    cases he
    exact ⟨Nat.le_refl _, fun j h1 h2 => by omega, by rw [hd, hb]⟩
  | cons c u ih =>
    obtain ⟨-, hu⟩ := drop_succ_of_cons hd
    rw [hd, firstAt?] at h
    split at h
    · rename_i b hb
      cases h
      exact ⟨Nat.le_refl _, fun j h1 h2 => by omega, by rw [hd, hb]⟩
    · rename_i hnone
      rw [← hu] at h
      obtain ⟨h1, h2, h3⟩ := ih h hu
      refine ⟨by omega, fun j hj hlt => ?_, h3⟩
      rcases Nat.eq_or_lt_of_le hj with rfl | hj
      · rw [hd, hnone]
      · exact h2 j hj hlt

theorem firstAt?_eq_none (h : firstAt? find i (t.drop i) = none) {o : Nat} (ho : i ≤ o) :
    find (t.drop o) = none := by
  induction hd : t.drop i generalizing i with
  | nil =>
    rw [hd, firstAt?] at h
    have hlen := List.drop_eq_nil_iff.mp hd
    rw [List.drop_eq_nil_of_le (by omega)]
    simpa using h
  | cons c u ih =>
    obtain ⟨-, hu⟩ := drop_succ_of_cons hd
    rw [hd, firstAt?] at h
    split at h
    · cases h
    · rename_i hnone
      rcases Nat.eq_or_lt_of_le ho with rfl | ho
      · rw [hd, hnone]
      · rw [← hu] at h
        exact ih h ho hu

end FirstAt

end FrontLint.Block

namespace FrontLint.Component

open FrontLint.Block

/-! ## The reading as a function -/

/-- The first opening tag of either kind from place `i` on: its place, its kind and its length. -/
def nextOpening? (t : Text) (i : Nat) : Option (Nat × BlockKind × Nat) :=
  firstAt? (opening? BlockKind.tag [.script, .style]) i (t.drop i)

/-- The body that starts at place `start`, up to the first closing tag or the end of the text. -/
def bodyFrom (kind : BlockKind) (t : Text) (start : Nat) : Span :=
  match firstAt? (closeLength? kind.tag) start (t.drop start) with
  | some (stop, n) => ⟨start, stop, stop + n⟩
  | none => ⟨start, t.length, t.length⟩

theorem firstOpening_of_nextOpening? {t : Text} {i o n : Nat} {kind : BlockKind}
    (h : nextOpening? t i = some (o, kind, n)) :
    FirstOpening BlockKind.tag [.script, .style] t i o kind n := by
  obtain ⟨h1, h2, h3⟩ := firstAt?_eq_some h
  exact ⟨h1, h2, h3⟩

theorem runsToGt_of_nextOpening? {t : Text} {i o n : Nat} {kind : BlockKind}
    (h : nextOpening? t i = some (o, kind, n)) : RunsToGt t o n :=
  runsToGt_of_openLength? (plainName_tag kind) (opening?_eq_some _ (firstOpening_of_nextOpening? h).here).2

theorem bodyFrom_start (kind : BlockKind) (t : Text) (start : Nat) :
    (bodyFrom kind t start).start = start := by
  unfold bodyFrom
  split <;> rfl

theorem bodyFrom_closes (kind : BlockKind) {t : Text} {start : Nat} (h : start ≤ t.length) :
    Closes t kind.tag (bodyFrom kind t start) := by
  unfold bodyFrom
  split
  · rename_i stop n hf
    obtain ⟨h1, h2, h3⟩ := firstAt?_eq_some hf
    exact ⟨h1, h2, .inl ⟨n, h3, rfl⟩⟩
  · rename_i hf
    exact ⟨h, fun j h1 _ => firstAt?_eq_none hf h1, .inr ⟨rfl, rfl⟩⟩

theorem le_closeEnd_bodyFrom (kind : BlockKind) {t : Text} {start : Nat} (h : start ≤ t.length) :
    start ≤ (bodyFrom kind t start).closeEnd := by
  have hle := (bodyFrom_closes kind h).start_le_closeEnd
  rwa [bodyFrom_start] at hle

/-- The blocks from place `i` on. -/
def readFrom (t : Text) (i : Nat) : List (BlockKind × Span) :=
  match _hnext : nextOpening? t i with
  | none => []
  | some (o, kind, n) =>
    if isSelfClosing ((t.drop o).take n) then readFrom t (o + n)
    else (kind, bodyFrom kind t (o + n)) :: readFrom t (bodyFrom kind t (o + n)).closeEnd
termination_by t.length - i
decreasing_by
  all_goals
    have h1 := (firstOpening_of_nextOpening? _hnext).le
    have h2 := (runsToGt_of_nextOpening? _hnext).two_le
    have h3 := (runsToGt_of_nextOpening? _hnext).end_le
  · omega
  · have h4 := le_closeEnd_bodyFrom kind h3
    omega

/-- The blocks of a component in one reading from left to right. -/
def sequential (t : Text) : List (BlockKind × Span) := readFrom t 0

theorem readFrom_reads (t : Text) (i : Nat) :
    ∃ fs, Reads BlockKind.tag [.script, .style] t i fs ∧ fs.map (fun f => (f.kind, f.span)) = readFrom t i := by
  fun_induction readFrom t i with
  | case1 i hnone => exact ⟨[], .done fun o ho => firstAt?_eq_none hnone ho, rfl⟩
  | case2 i o kind n hnext hself ih =>
    obtain ⟨fs, hr, he⟩ := ih
    exact ⟨fs, .skip (firstOpening_of_nextOpening? hnext) hself hr, he⟩
  | case3 i o kind n hnext hself ih =>
    obtain ⟨fs, hr, he⟩ := ih
    have hfirst := firstOpening_of_nextOpening? hnext
    have hstart := bodyFrom_start kind t (o + n)
    have hn : (bodyFrom kind t (o + n)).start - o = n := by omega
    refine ⟨⟨o, kind, bodyFrom kind t (o + n)⟩ :: fs, .block hfirst ⟨?_, ?_, ?_, ?_⟩ hr, ?_⟩
    · exact bodyFrom_closes kind (runsToGt_of_nextOpening? hnext).end_le
    · show o ≤ (bodyFrom kind t (o + n)).start
      omega
    · rw [hn]
      exact (opening?_eq_some _ hfirst.here).2
    · rw [hn]
      simpa using hself
    · rw [List.map_cons, he]

/-- One reading of both kinds gives the blocks. -/
theorem sequential_reads (t : Text) :
    ∃ fs, Reads BlockKind.tag [.script, .style] t 0 fs ∧
      fs.map (fun f => (f.kind, f.span)) = sequential t :=
  readFrom_reads t 0

/-! ## The blocks and the regions of one kind -/

theorem closeEnd_lt_of_start_lt {kind : BlockKind} {t : Text} {a b : Span}
    (ha : a ∈ Block.spans kind.tag t) (hb : b ∈ Block.spans kind.tag t) (h : a.start < b.start) :
    a.closeEnd < b.start := by
  have hne : a ≠ b := by
    rintro rfl
    omega
  rcases rel_or_rel_of_pairwise (blockSpans_pairwise kind t) ha hb hne with hab | hba
  · exact hab
  · obtain ⟨o, hblock⟩ := blockSpans_closes kind t hb
    have := hblock.start_le_closeEnd
    omega

/-- The blocks do not overlap. -/
theorem sequential_pairwise (t : Text) :
    (sequential t).Pairwise fun a b => a.2.closeEnd ≤ b.2.start := by
  obtain ⟨fs, hr, he⟩ := sequential_reads t
  rw [← he, List.pairwise_map]
  refine (hr.separated plainName_tag).imp_of_mem ?_
  intro f g _ hg hfg
  have := (hr.of_mem plainName_tag hg).2.1.place_lt (plainName_tag g.kind)
  simp only
  omega

theorem sequential_pairwise_earlier (t : Text) : (sequential t).Pairwise Earlier := by
  obtain ⟨fs, hr, he⟩ := sequential_reads t
  rw [← he, List.pairwise_map]
  refine (hr.separated plainName_tag).imp_of_mem ?_
  intro f g hf hg hfg
  have h1 := (hr.of_mem plainName_tag hg).2.1.place_lt (plainName_tag g.kind)
  have h2 := (hr.of_mem plainName_tag hf).2.1.start_le_closeEnd
  exact .inl (show f.span.start < g.span.start by omega)

/-- A region that ends behind the start of an opening tag does not end before the tag does. -/
theorem start_le_closeEnd_of_place_lt {t : Text} {kind : BlockKind} {o : Nat} {s : Span} {name : Text}
    (hs : IsBlock t name o s) (hname : PlainName name) {r : Span} (hr : Closes t kind.tag r)
    (h : o < r.closeEnd) : s.start ≤ r.closeEnd := by
  have htag := hs.runsToGt hname
  have hplace := hs.place_lt hname
  rcases hr.close with ⟨n, hn, he⟩ | ⟨-, he⟩
  · have hclose := runsToGt_of_closeLength? (plainName_tag kind) hn
    have h2 := hclose.two_le
    apply Classical.byContradiction
    intro hlt
    -- The closing tag of `r` ends in the first `>` of the opening tag.
    have hgt := hclose.gt_last
    rw [← he] at hgt
    exact htag.gt_first (r.closeEnd - 1) (by omega) (by omega) hgt
  · have := htag.end_le
    omega

/-- A region that reading one kind alone finds, but that is no block. -/
def Stray (t : Text) (a : BlockKind × Span) : Prop :=
  a.2 ∈ Block.spans a.1.tag t ∧ a ∉ sequential t

instance (t : Text) (a : BlockKind × Span) : Decidable (Stray t a) :=
  inferInstanceAs (Decidable (_ ∧ _))

/-- Reading its kind alone, the tag of a block opens a region or stands in one. -/
theorem exists_region_at {kind : BlockKind} {t : Text} {o : Nat} {s : Span} (hs : IsBlock t kind.tag o s) :
    ∃ r ∈ Block.spans kind.tag t, o < r.closeEnd ∧ Closes t kind.tag r ∧ (r.start ≤ o ∨ s = r) := by
  obtain ⟨gs, hgs, heg⟩ := spans_reads BlockKind.tag kind (plainName_tag kind) t
  have hopen : opening? BlockKind.tag [kind] (t.drop o) = some (kind, s.start - o) := by
    rw [opening?_singleton, hs.opens]
    rfl
  obtain ⟨g, hg, hle, hlt⟩ := hgs.covers plainName_tag (Nat.zero_le _) hopen hs.stays
  obtain ⟨-, hblock, hkind⟩ := hgs.of_mem plainName_tag hg
  rw [List.mem_singleton.mp hkind] at hblock
  refine ⟨g.span, heg ▸ List.mem_map.mpr ⟨g, hg, rfl⟩, hlt, hblock.toCloses, ?_⟩
  by_cases hin : o < g.span.start
  · -- The tag stands in the tag of `g`, so both end in the same `>`.
    have hplace := hs.place_lt (plainName_tag kind)
    have hend := (hblock.runsToGt (plainName_tag kind)).end_eq (hs.runsToGt (plainName_tag kind)) hle
      (by omega)
    exact .inr (hs.toCloses.unique hblock.toCloses (by omega))
  · exact .inl (by omega)

/-- The tag of a block does not stand in another block. -/
theorem eq_of_place_in_block {t : Text} {fs : List (Found BlockKind)}
    (hfs : Reads BlockKind.tag [.script, .style] t 0 fs) {f g : Found BlockKind} (hf : f ∈ fs) (hg : g ∈ fs)
    (h1 : g.span.start ≤ f.place) (h2 : f.place < g.span.closeEnd) : f = g := by
  apply Classical.byContradiction
  intro hne
  have hfblock := (hfs.of_mem plainName_tag hf).2.1
  have h3 := hfblock.place_lt (plainName_tag f.kind)
  have h4 := hfblock.start_le_closeEnd
  have h5 := (hfs.of_mem plainName_tag hg).2.1.place_le
  rcases rel_or_rel_of_pairwise (hfs.separated plainName_tag) hf hg hne with h | h <;> omega

/-- Where stray regions close in time, reading one kind alone finds every block of that kind. -/
theorem mem_blockSpans_of_mem_sequential {t : Text}
    (hstray : ∀ a, Stray t a → ∀ b ∈ sequential t, b.1 = a.1 → a.2.start < b.2.start →
      a.2.closeEnd < b.2.start)
    {b : BlockKind × Span} (hb : b ∈ sequential t) : b.2 ∈ Block.spans b.1.tag t := by
  have hmem := hb
  obtain ⟨fs, hfs, he⟩ := sequential_reads t
  rw [← he] at hb
  obtain ⟨f, hf, rfl⟩ := List.mem_map.mp hb
  have hblock := (hfs.of_mem plainName_tag hf).2.1
  have hplace := hblock.place_lt (plainName_tag f.kind)
  obtain ⟨r, hr, hlt, hcloses, hstart | hsame⟩ := exists_region_at hblock
  · by_cases hblockr : (f.kind, r) ∈ sequential t
    · rw [← he] at hblockr
      obtain ⟨g, hg, heg⟩ := List.mem_map.mp hblockr
      have hspan : g.span = r := congrArg Prod.snd heg
      rw [← hspan] at hstart hlt hr
      rw [eq_of_place_in_block hfs hf hg hstart hlt] at hr ⊢
      exact hr
    · have hclosed : r.closeEnd < f.span.start :=
        hstray (f.kind, r) ⟨hr, hblockr⟩ _ hmem rfl (show r.start < f.span.start by omega)
      have := start_le_closeEnd_of_place_lt hblock (plainName_tag _) hcloses hlt
      omega
  · rw [hsame]
    exact hr

instance : Std.Antisymm Earlier := ⟨fun _ _ h h' => (h.asymm h').elim⟩

/-- The merged spans are the blocks exactly when every stray region starts in an earlier block and is
closed before the next block of its own kind starts. -/
theorem spans_eq_sequential_iff (t : Text) :
    spans t = sequential t ↔
      ∀ a, Stray t a →
        (∃ b ∈ sequential t, Earlier b a ∧ a.2.start < b.2.closeEnd) ∧
        ∀ b ∈ sequential t, b.1 = a.1 → a.2.start < b.2.start → a.2.closeEnd < b.2.start := by
  constructor
  · rintro heq a ⟨hfound, hno⟩
    rw [← heq]
    rw [← heq, spans_eq_keepDisjoint] at hno
    refine ⟨?_, fun b hb hkind hlt => ?_⟩
    · rcases keepDisjoint_covers 0 (merged_pairwise t) (mem_merged.mpr hfound) with h | h | h
      · exact absurd h hno
      · omega
      · rw [spans_eq_keepDisjoint]
        exact h
    · have hb' := mem_blockSpans_of_mem_spans hb
      rw [hkind] at hb'
      exact closeEnd_lt_of_start_lt hfound hb' hlt
  · intro hstray
    rw [spans_eq_keepDisjoint]
    have hsub : sequential t ⊆ merged t := fun b hb =>
      mem_merged.mpr (mem_blockSpans_of_mem_sequential (fun a ha => (hstray a ha).2) hb)
    have hnodup : (sequential t).Nodup := (sequential_pairwise_earlier t).imp Earlier.ne
    refine keepDisjoint_eq (merged_pairwise t) ?_ (fun b _ => Nat.zero_le _) (sequential_pairwise t) ?_
    · exact List.sublist_of_subperm_of_pairwise (List.subperm_of_subset hnodup hsub)
        (sequential_pairwise_earlier t) (merged_pairwise t)
    · intro a ha
      by_cases hmem : a ∈ sequential t
      · exact .inl hmem
      · exact .inr (.inr (hstray a ⟨mem_merged.mp ha, hmem⟩).1)

/-- Either condition can fail. A quoted tag takes the closing tag of the block that follows, which is
lost; and a tag in a block, whose `>` is that of the closing tag, adds a block behind it. -/
theorem two_readings_differ :
    let quoted := Text.ofString "<script>'<style>'</script><style>a</style>"
    let shared := Text.ofString "<script>a<style </script>b"
    (sequential quoted = [(.script, ⟨8, 17, 26⟩), (.style, ⟨33, 34, 42⟩)] ∧
      spans quoted = [(.script, ⟨8, 17, 26⟩)]) ∧
    (sequential shared = [(.script, ⟨8, 16, 25⟩)] ∧
      spans shared = [(.script, ⟨8, 16, 25⟩), (.style, ⟨25, 26, 26⟩)]) := by
  intro quoted shared
  have hquoted : found quoted = [(.script, ⟨8, 17, 26⟩), (.style, ⟨16, 34, 42⟩)] := by decide +kernel
  have hshared : found shared = [(.script, ⟨8, 16, 25⟩), (.style, ⟨25, 26, 26⟩)] := by decide +kernel
  refine ⟨⟨by decide +kernel, ?_⟩, by decide +kernel, ?_⟩
  · rw [spans_of_found hquoted (by decide)]
    decide
  · rw [spans_of_found hshared (by decide)]
    decide

end FrontLint.Component
