/-
  FrontLint.Proofs.Path.Names — paths that are put together from names.

  The names of a directory's entries are no dots, hold no slash and are not empty (`IsName`). Written with
  slashes between them they make a plain path, and joining them one by one to a path is joining that path.
  Proved:
  - `isPlain_ofNames`: they make a plain path, with these names for components.
  - `foldl_join`: joined one by one, they add up to it.
-/

import FrontLint.Proofs.Path.Components

namespace FrontLint

namespace Path

/-- What an entry of a directory may be called. -/
structure IsName (n : Text) : Prop where
  ne_nil : n ≠ []
  ne_here : n ≠ ['.']
  ne_up : n ≠ ['.', '.']
  no_slash : '/' ∉ n

instance (n : Text) : Decidable (IsName n) :=
  decidable_of_iff (n ≠ [] ∧ n ≠ ['.'] ∧ n ≠ ['.', '.'] ∧ '/' ∉ n)
    ⟨fun ⟨h₁, h₂, h₃, h₄⟩ => ⟨h₁, h₂, h₃, h₄⟩, fun ⟨h₁, h₂, h₃, h₄⟩ => ⟨h₁, h₂, h₃, h₄⟩⟩

theorem IsName.not_void {n : Text} (h : IsName n) : isVoid n = false := by
  simp [isVoid, h.ne_nil, h.ne_here]

theorem IsName.part_eq {n : Text} (h : IsName n) : Part.ofPiece n = .name n := by
  rw [Part.ofPiece, if_neg h.ne_up]

theorem splitOn_name {n : Text} (hn : IsName n) : Text.splitOn (· = '/') n = [n] := by
  refine Text.splitOn_of_not_mem fun c hc => ?_
  rw [decide_eq_false_iff_not]
  rintro rfl
  exact hn.no_slash hc

theorem lead_name {n : Text} (hn : IsName n) : lead ⟨n⟩ = [] := lead_eq_nil (splitOn_name hn) hn.not_void

/-- The path with these names. -/
def ofNames (ns : List Text) : Path := ⟨joinPieces ns⟩

variable {ns : List Text}

theorem joinPieces_ne_nil (hne : ns ≠ []) (hns : ∀ n ∈ ns, IsName n) : joinPieces ns ≠ [] := by
  intro h
  have hsplit := splitOn_joinPieces hne fun n hn => (hns n hn).no_slash
  rw [h] at hsplit
  exact (hns [] (hsplit ▸ List.mem_singleton_self _)).ne_nil rfl

theorem lead_ofNames (hns : ∀ n ∈ ns, IsName n) : (ofNames ns).lead = [] := by
  by_cases hne : ns = []
  · subst hne
    rfl
  obtain ⟨n, rest, rfl⟩ := List.exists_cons_of_ne_nil hne
  exact lead_eq_nil (splitOn_joinPieces hne fun n hn => (hns n hn).no_slash) (hns n List.mem_cons_self).not_void

theorem pieces_ofNames (hns : ∀ n ∈ ns, IsName n) : (ofNames ns).pieces = ns := by
  by_cases hne : ns = []
  · subst hne
    rfl
  have hbody : (ofNames ns).text.drop (ofNames ns).lead.length = joinPieces ns := by
    rw [lead_ofNames hns]
    rfl
  rw [pieces_of_body hbody (joinPieces_ne_nil hne hns),
    splitOn_joinPieces hne fun n hn => (hns n hn).no_slash]

theorem components_ofNames (hns : ∀ n ∈ ns, IsName n) : (ofNames ns).components = ns.map .name := by
  have hfilter : ns.filter (!isVoid ·) = ns := by
    refine List.filter_eq_self.mpr fun n hn => ?_
    simp [(hns n hn).not_void]
  rw [components_eq, leadParts_eq_nil (lead_ofNames hns), pieces_ofNames hns, hfilter, List.nil_append]
  exact List.map_congr_left fun n hn => (hns n hn).part_eq

theorem isPlain_ofNames (hne : ns ≠ []) (hns : ∀ n ∈ ns, IsName n) : (ofNames ns).IsPlain := by
  rw [IsPlain, components_ofNames hns]
  refine ⟨by simpa using hne, fun c hc => ?_⟩
  obtain ⟨n, -, rfl⟩ := List.mem_map.mp hc
  exact ⟨n, rfl⟩

theorem trimPieces_names (hns : ∀ n ∈ ns, IsName n) : trimPieces ns = ns := by
  unfold trimPieces
  rcases List.eq_nil_or_concat ns with rfl | ⟨front, n, rfl⟩
  · rfl
  · have hn : isVoid n = false := (hns n (by simp)).not_void
    simp [hn]

/-! ## Joined one by one -/

theorem join_join {p q : Path} {n : Text} (hn : IsName n) (hq : q.lead = []) :
    (p.join ⟨n⟩).join q = p.join ⟨n ++ '/' :: q.text⟩ := by
  obtain ⟨c, t, rfl⟩ := List.exists_cons_of_ne_nil hn.ne_nil
  have hc : c ≠ '/' := by
    rintro rfl
    exact hn.no_slash List.mem_cons_self
  have hname : isAbsolute ⟨c :: t⟩ = false := by simp [isAbsolute, hc]
  have hlong : isAbsolute ⟨c :: t ++ '/' :: q.text⟩ = false := by simp [isAbsolute, hc]
  have hstem : stem ⟨p.stem ++ c :: t⟩ = p.stem ++ c :: t ++ ['/'] := by
    have hlast : (c :: t).getLast? ≠ some '/' := fun hlast => hn.no_slash (List.mem_of_getLast? hlast)
    simp [stem, hlast]
  rw [join_eq hname, join_eq hlong, join_eq (isAbsolute_of_lead hq), hstem]
  simp

/-- Names that are joined to a path one by one add up to a path. -/
theorem foldl_join (p : Path) (hne : ns ≠ []) (hns : ∀ n ∈ ns, IsName n) :
    ns.foldl (fun q n => q.join ⟨n⟩) p = p.join (ofNames ns) := by
  induction ns generalizing p with
  | nil => exact absurd rfl hne
  | cons n ns ih =>
    cases ns with
    | nil => rfl
    | cons m ns =>
      have hrest : ∀ k ∈ m :: ns, IsName k := fun k hk => hns k (List.mem_cons_of_mem n hk)
      rw [List.foldl_cons, ih (p.join ⟨n⟩) (by simp) hrest, join_join (hns n List.mem_cons_self) (lead_ofNames hrest)]
      rfl

end Path

end FrontLint
