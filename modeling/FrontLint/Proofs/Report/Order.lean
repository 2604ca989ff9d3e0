/-
  FrontLint.Proofs.Report.Order — what the order of a report depends on.

  Entries are sorted by a comparison, and the sorting is stable: entries that compare equal keep their
  order. Proved:
  - `filter_mergeSort`: sorting leaves the entries that compare equal to one as they are.
  - `mergeSort_eq_of_filter_eq`: two lists of the same entries, with those that compare equal in the same
    order, are sorted alike.
  - `mergeSort_flatMap_perm`: so a sorted list that is put together from named parts does not depend on
    the order of the parts, if entries that compare equal have the same name and no two parts do.
  - `Finding.file_eq_of_order_eq`: findings that compare equal are of one file.
-/

import FrontLint.Report.Basic
import Mathlib.Data.List.Nodup
import Mathlib.Data.List.Perm.Basic
import Mathlib.Order.Compare

namespace FrontLint

/-! ## Stable sorting -/

section Sorting

variable {α : Type} {cmp : α → α → Ordering} [Std.TransCmp cmp]

theorem isLE_trans (a b c : α) (hab : (cmp a b).isLE = true) (hbc : (cmp b c).isLE = true) :
    (cmp a c).isLE = true := Std.TransCmp.isLE_trans hab hbc

theorem isLE_total (a b : α) : ((cmp a b).isLE || (cmp b a).isLE) = true := by
  have hswap : cmp b a = (cmp a b).swap := Std.OrientedCmp.eq_swap
  rw [hswap]
  cases cmp a b <;> rfl

/-- Sorting leaves the entries that compare equal to one as they are. -/
theorem filter_mergeSort (l : List α) (a : α) :
    (l.mergeSort fun b c => (cmp b c).isLE).filter (cmp a · == .eq) = l.filter (cmp a · == .eq) := by
  have hequal : ∀ b ∈ l.filter (cmp a · == .eq), ∀ c ∈ l.filter (cmp a · == .eq), (cmp b c).isLE = true := by
    intro b hb c hc
    have hb' : cmp a b = .eq := by simpa using (List.mem_filter.mp hb).2
    have hc' : cmp a c = .eq := by simpa using (List.mem_filter.mp hc).2
    exact isLE_trans b a c (by rw [Std.OrientedCmp.eq_symm hb']; rfl) (by rw [hc']; rfl)
  have hsub := (List.sublist_mergeSort isLE_trans isLE_total (List.pairwise_of_forall_mem_list hequal)
    List.filter_sublist).filter (cmp a · == .eq)
  simp only [List.filter_filter, Bool.and_self] at hsub
  have hlen := ((List.mergeSort_perm l fun b c => (cmp b c).isLE).filter (cmp a · == .eq)).length_eq
  exact (hsub.eq_of_length hlen.symm).symm

/-- Sorted lists of the same entries, with those that compare equal in the same order, are equal. -/
theorem eq_of_sorted {s s' : List α} (hs : s.Pairwise fun a b => (cmp a b).isLE = true)
    (hs' : s'.Pairwise fun a b => (cmp a b).isLE = true) (hperm : s.Perm s')
    (hequal : ∀ a, s.filter (cmp a · == .eq) = s'.filter (cmp a · == .eq)) : s = s' := by
  induction s generalizing s' with
  | nil => exact (List.nil_perm.mp hperm).symm
  | cons x xs ih =>
    rcases s' with _ | ⟨y, ys⟩
    · exact absurd hperm.length_eq (by simp)
    have hrefl : ∀ a, cmp a a = .eq := fun a => Std.ReflCmp.compare_self
    have hxy : cmp x y = .eq := by
      apply Std.OrientedCmp.isLE_antisymm
      · rcases List.mem_cons.mp (hperm.mem_iff.mpr List.mem_cons_self) with rfl | h
        · rw [hrefl]
          rfl
        · exact List.rel_of_pairwise_cons hs h
      · rcases List.mem_cons.mp (hperm.mem_iff.mp List.mem_cons_self) with rfl | h
        · rw [hrefl]
          rfl
        · exact List.rel_of_pairwise_cons hs' h
    -- Both are the first of the entries that compare equal to `x`.
    have hhead := hequal x
    rw [List.filter_cons_of_pos (by simp [hrefl]), List.filter_cons_of_pos (by simp [hxy])] at hhead
    obtain ⟨rfl, -⟩ := List.cons.inj hhead
    rw [ih hs.of_cons hs'.of_cons hperm.cons_inv fun a => ?_]
    have h := hequal a
    rw [List.filter_cons, List.filter_cons] at h
    split at h
    · exact (List.cons.inj h).2
    · exact h

theorem mergeSort_eq_of_filter_eq {l l' : List α} (hperm : l.Perm l')
    (hequal : ∀ a, l.filter (cmp a · == .eq) = l'.filter (cmp a · == .eq)) :
    (l.mergeSort fun a b => (cmp a b).isLE) = l'.mergeSort fun a b => (cmp a b).isLE := by
  refine eq_of_sorted (List.pairwise_mergeSort isLE_trans isLE_total l)
    (List.pairwise_mergeSort isLE_trans isLE_total l') ?_ fun a => ?_
  · exact (List.mergeSort_perm l _).trans (hperm.trans (List.mergeSort_perm l' _).symm)
  · rw [filter_mergeSort, filter_mergeSort, hequal a]

/-- A sorted list put together from parts with distinct titles does not depend on the order of the parts,
if entries that compare equal have the same name and each has the title of its part. -/
theorem mergeSort_flatMap_perm {ι : Type} {name : α → String} {title : ι → String} {part : ι → List α}
    (hname : ∀ a b, cmp a b = .eq → name a = name b) (htitle : ∀ i, ∀ a ∈ part i, name a = title i)
    {is js : List ι} (hdistinct : (is.map title).Nodup) (hperm : js.Perm is) :
    ((js.flatMap part).mergeSort fun a b => (cmp a b).isLE) =
      (is.flatMap part).mergeSort fun a b => (cmp a b).isLE := by
  refine mergeSort_eq_of_filter_eq (hperm.flatMap_right part) fun a => ?_
  -- What compares equal to `a` comes from the part of its name, and there is one at most.
  have honly : ∀ ks : List ι, (ks.flatMap part).filter (cmp a · == .eq) =
      (ks.filter (title · == name a)).flatMap fun i => (part i).filter (cmp a · == .eq) := by
    intro ks
    rw [List.filter_flatMap]
    induction ks with
    | nil => rfl
    | cons k ks ih =>
      rw [List.flatMap_cons, ih]
      by_cases hk : title k = name a
      · rw [List.filter_cons_of_pos (by simpa using hk), List.flatMap_cons]
      · rw [List.filter_cons_of_neg (by simpa using hk), List.filter_eq_nil_iff.mpr, List.nil_append]
        intro b hb hequal
        exact hk ((htitle k b hb).symm.trans (hname a b (by simpa using hequal)).symm)
  have hone : (is.filter (title · == name a)).length ≤ 1 := by
    have hcount := List.nodup_iff_count_le_one.mp hdistinct (name a)
    rwa [List.count, List.countP_map, List.countP_eq_length_filter] at hcount
  have hsame : js.filter (title · == name a) = is.filter (title · == name a) := by
    have hfilter := hperm.filter (title · == name a)
    generalize is.filter (title · == name a) = ks at hone hfilter
    rcases ks with _ | ⟨k, _ | ⟨k', ks⟩⟩
    · exact List.perm_nil.mp hfilter
    · exact List.perm_singleton.mp hfilter
    · simp at hone
  rw [honly, honly, hsame]

end Sorting

/-! ## The order of findings -/

namespace Finding

instance : Std.TransCmp order := by
  have h : order = compareLex (compareOn (·.category.rank)) (compareLex (compareOn (·.file))
      (compareLex (compareOn (·.line)) (compareLex (compareOn (·.column)) (compareOn (·.ruleId))))) := rfl
  rw [h]
  infer_instance

/-- Findings that compare equal are of one file. -/
theorem file_eq_of_order_eq (a b : Finding) (h : order a b = .eq) : a.file = b.file := by
  rw [order, Ordering.then_eq_eq, Ordering.then_eq_eq] at h
  exact Std.LawfulEqCmp.compare_eq_iff_eq.mp h.2.1

end Finding

end FrontLint
