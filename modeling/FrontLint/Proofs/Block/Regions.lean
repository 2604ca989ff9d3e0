/-
  FrontLint.Proofs.Block.Regions — the spans of one tag as regions of the text, by byte offsets.

  A region is an opening tag that is not self-closing, the body behind it in which no closing tag starts,
  and the closing tag, or the end of the text if there is none (`IsRegion`). Tags are parts of the text,
  whatever reads them. Proved:
  - `isOpening_part_iff` / `isClosing_part_iff`: a part of the text is a tag iff a tag of its length is
    read where it starts.
  - `isRegion_of_isBlock`: the block of an opening tag is a region.
  - `spans_regions`: the spans of a tag are its regions in order, and an opening tag that stands in none of
    them is self-closing.
-/

import FrontLint.Proofs.Block.Reading
import FrontLint.Proofs.Text.Boundary

namespace FrontLint.Block

open FrontLint.Text

/-! ## Parts that are tags -/

section Part

variable {t name : Text} {i j : Nat}

theorem length_part (hj : j ≤ t.length) : ((t.take j).drop i).length = j - i := by
  rw [List.length_drop, List.length_take, Nat.min_eq_left hj]

/-- From place `i` on there is one text of as many characters as there are up to place `j`. -/
theorem exists_part_iff (hij : i ≤ j) (hj : j ≤ t.length) {P : Text → Prop} :
    (∃ tag rest, t.drop i = tag ++ rest ∧ tag.length = j - i ∧ P tag) ↔ P ((t.take j).drop i) := by
  constructor
  · rintro ⟨tag, rest, hsplit, hlen, htag⟩
    rw [drop_eq_part_append t hij] at hsplit
    rw [(List.append_inj hsplit (by rw [hlen, length_part hj])).1]
    exact htag
  · intro h
    exact ⟨_, _, drop_eq_part_append t hij, length_part hj, h⟩

theorem isOpening_part_iff (hij : i ≤ j) (hj : j ≤ t.length) :
    IsOpening name ((t.take j).drop i) ↔ openLength? name (t.drop i) = some (j - i) := by
  rw [openLength?_iff, exists_part_iff hij hj]

theorem isClosing_part_iff (hij : i ≤ j) (hj : j ≤ t.length) :
    IsClosing name ((t.take j).drop i) ↔ closeLength? name (t.drop i) = some (j - i) := by
  rw [closeLength?_iff, exists_part_iff hij hj]

end Part

/-! ## Regions -/

/-- The region of tag `name` whose opening tag starts at byte offset `place`. -/
structure IsRegion (t name : Text) (place : Nat) (s : Span) : Prop where
  start_le : s.start ≤ s.stop
  stop_le : s.stop ≤ s.closeEnd
  closeEnd_le : s.closeEnd ≤ width t
  opens : ∃ tag, t.slice? place s.start = some tag ∧ IsOpening name tag ∧ isSelfClosing tag = false
  no_close : ∀ a b tag, s.start ≤ a → a < s.stop → t.slice? a b = some tag → ¬ IsClosing name tag
  closes : (∃ tag, t.slice? s.stop s.closeEnd = some tag ∧ IsClosing name tag) ∨
    s.stop = width t ∧ s.closeEnd = width t

theorem isRegion_of_isBlock {t name : Text} {o : Nat} {s : Span} (hp : PlainName name) (h : IsBlock t name o s) :
    IsRegion t name (t.byteOffset o) (s.inBytes t) := by
  have hstop := h.stop_le
  have hend := h.closeEnd_le hp
  have hstart := h.start_le
  refine ⟨t.byteOffset_le hstart, t.byteOffset_le hstop, t.byteOffset_le_width _, ?_, ?_, ?_⟩
  · refine ⟨(t.take s.start).drop o, slice?_byteOffset h.place_le (by omega), ?_, ?_⟩
    · rw [isOpening_part_iff h.place_le (by omega)]
      exact h.opens
    · rw [List.drop_take]
      exact h.stays
  · intro a b tag hfrom hto htag hclosing
    obtain ⟨i, j, hij, hj, rfl, rfl, rfl⟩ := slice?_eq_some_iff.mp htag
    have hi : i < s.stop := lt_of_byteOffset_lt hto
    have hbody : s.start ≤ i := by
      apply Classical.byContradiction
      intro hlt
      have := byteOffset_lt (t := t) (Nat.lt_of_not_le hlt) (by omega)
      exact absurd hfrom (Nat.not_le_of_lt this)
    rw [isClosing_part_iff hij hj, h.no_close i hbody hi] at hclosing
    cases hclosing
  · rcases h.close with ⟨n, hn, he⟩ | ⟨hlast, he⟩
    · refine .inl ⟨(t.take s.closeEnd).drop s.stop, slice?_byteOffset hstop hend, ?_⟩
      rw [isClosing_part_iff hstop hend, hn, he, Nat.add_sub_cancel_left]
    · refine .inr ⟨?_, ?_⟩
      · rw [Span.inBytes, hlast, byteOffset_length]
      · rw [Span.inBytes, he, byteOffset_length]

/-- Letters, digits and hyphens, which tag names are made of. -/
def isNameChar (c : Char) : Bool := c.isAlphanum || c == '-'

theorem plainName_of_isNameChar {name : Text} (h : ∀ c ∈ name, isNameChar c = true) : PlainName name := by
  refine plainName_of_not_mem ?_ ?_
  · intro hm
    exact absurd (h '<' hm) (by decide)
  · intro hm
    exact absurd (h '>' hm) (by decide)

/-- The spans of a tag end in the text, so that their byte offsets are not cut off at its end. They are the
regions of the tag, each behind the one before. An opening tag that starts in none of them, from the opening
tag to the end of the closing tag, is self-closing. -/
theorem spans_regions {name : Text} (hname : ∀ c ∈ name, isNameChar c = true) (t : Text) :
    (∀ s ∈ spans name t, s.start ≤ s.stop ∧ s.stop ≤ s.closeEnd ∧ s.closeEnd ≤ t.length) ∧
    ∃ regions : List (Nat × Span), regions.map (·.2) = (spans name t).map (·.inBytes t) ∧
      (∀ r ∈ regions, IsRegion t name r.1 r.2) ∧
      (regions.Pairwise fun r r' => r.2.closeEnd ≤ r'.1) ∧
      ∀ a b tag, t.slice? a b = some tag → IsOpening name tag →
        (∀ r ∈ regions, ¬ (r.1 ≤ a ∧ a < r.2.closeEnd)) → isSelfClosing tag = true := by
  have hp := plainName_of_isNameChar hname
  obtain ⟨fs, hreads, hspans⟩ := spans_reads (fun _ : Unit => name) () hp t
  have hblock : ∀ f ∈ fs, IsBlock t name f.place f.span := fun f hf => (hreads.of_mem (fun _ => hp) hf).2.1
  refine ⟨?_, fs.map fun f => (t.byteOffset f.place, f.span.inBytes t), ?_, ?_, ?_, ?_⟩
  · intro s hs
    rw [← hspans] at hs
    obtain ⟨f, hf, rfl⟩ := List.mem_map.mp hs
    exact ⟨(hblock f hf).start_le, (hblock f hf).stop_le, (hblock f hf).closeEnd_le hp⟩
  · rw [← hspans, List.map_map, List.map_map]
    rfl
  · intro r hr
    obtain ⟨f, hf, rfl⟩ := List.mem_map.mp hr
    exact isRegion_of_isBlock hp (hblock f hf)
  · rw [List.pairwise_map]
    exact (hreads.separated fun _ => hp).imp fun h => t.byteOffset_le h
  · intro a b tag htag hopening hout
    obtain ⟨i, j, hij, hj, rfl, rfl, rfl⟩ := slice?_eq_some_iff.mp htag
    rw [isOpening_part_iff hij hj] at hopening
    have hhere : opening? (fun _ : Unit => name) [()] (t.drop i) = some ((), j - i) := by
      rw [opening?_singleton, hopening]
      rfl
    apply Classical.byContradiction
    intro hself
    -- A tag that is not self-closing opens a block or stands in one.
    obtain ⟨f, hf, hplace, hend⟩ := hreads.covers (fun _ => hp) (Nat.zero_le _) hhere
      (by rwa [← List.drop_take, ← Bool.not_eq_true])
    have hlast : f.span.closeEnd ≤ t.length := (hblock f hf).closeEnd_le hp
    exact hout _ (List.mem_map.mpr ⟨f, hf, rfl⟩) ⟨t.byteOffset_le hplace, byteOffset_lt hend hlast⟩

/-- A region with another opening tag in its body and blanks in the closing tag, a self-closing tag, and a
region without an end behind a wide character. -/
theorem spans_regions_mixed_case :
    let name := ofString "my-tag"
    let t := ofString "<My-Tag a>x<my-tag></MY-TAG ><my-tag />é<my-tag>z"
    (∀ c ∈ name, isNameChar c = true) ∧
      (spans name t).map (·.inBytes t) = [⟨10, 19, 29⟩, ⟨49, 50, 50⟩] ∧
      (∀ s ∈ spans name t, s.start ≤ s.stop ∧ s.stop ≤ s.closeEnd ∧ s.closeEnd ≤ t.length) ∧
      ∃ regions : List (Nat × Span), regions.map (·.2) = (spans name t).map (·.inBytes t) ∧
        (∀ r ∈ regions, IsRegion t name r.1 r.2) ∧
        (regions.Pairwise fun r r' => r.2.closeEnd ≤ r'.1) ∧
        ∀ a b tag, t.slice? a b = some tag → IsOpening name tag →
          (∀ r ∈ regions, ¬ (r.1 ≤ a ∧ a < r.2.closeEnd)) → isSelfClosing tag = true := by
  intro name t
  have hname : ∀ c ∈ name, isNameChar c = true := List.all_eq_true.mp (by decide)
  exact ⟨hname, by decide +kernel, spans_regions hname t⟩

end FrontLint.Block
