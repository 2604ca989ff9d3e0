/-
  FrontLint.Proofs.FileSystem.Tree — what stands in a file tree, by the names on the way to it.

  A tree is well-formed (`WellFormed`) if in every directory the entries have names that can be written
  in a path, and no two have the same. Proved:
  - `get?_append`: names are followed one after the other.
  - `get?_cons`: what stands below the entries of a directory with distinct names.
  - `isName_of_get?`: what is on the way to something is a name.
-/

import FrontLint.FileSystem.Tree
import FrontLint.Proofs.Path.Names

namespace FrontLint

namespace FileTree

/-- In every directory, entries have names and no two have the same. -/
inductive WellFormed : FileTree → Prop
  | file (content : ByteArray) : WellFormed (.file content)
  | directory {entries : List (Text × FileTree)} : (entries.map (·.1)).Nodup →
      (∀ e ∈ entries, Path.IsName e.1) → (∀ e ∈ entries, WellFormed e.2) → WellFormed (.directory entries)

theorem get?_append (t : FileTree) (ds es : List Text) : t.get? (ds ++ es) = (t.get? ds).bind (·.get? es) := by
  induction ds generalizing t with
  | nil => simp [get?]
  | cons d ds ih =>
    cases t with
    | file content => simp [get?]
    | directory entries =>
      simp only [List.cons_append, get?]
      cases entries.lookup d with
      | none => rfl
      | some u => exact ih u

theorem lookup_eq_some_iff {entries : List (Text × FileTree)} (hnames : (entries.map (·.1)).Nodup) {n : Text}
    {t : FileTree} : entries.lookup n = some t ↔ (n, t) ∈ entries := by
  induction entries with
  | nil => simp
  | cons e entries ih =>
    obtain ⟨m, u⟩ := e
    obtain ⟨hm, hrest⟩ := List.nodup_cons.mp hnames
    by_cases hn : n = m
    · subst hn
      have hnot : (n, t) ∉ entries := fun h => hm (List.mem_map.mpr ⟨(n, t), h, rfl⟩)
      simp [hnot, eq_comm]
    · have hdiffer : (n == m) = false := by simpa using hn
      rw [List.lookup_cons, hdiffer, ih hrest]
      simp [hn]

theorem get?_cons {entries : List (Text × FileTree)} (hnames : (entries.map (·.1)).Nodup) {n : Text}
    {ns : List Text} {t : FileTree} :
    (directory entries).get? (n :: ns) = some t ↔ ∃ u, (n, u) ∈ entries ∧ u.get? ns = some t := by
  simp only [get?]
  constructor
  · intro h
    split at h
    · rename_i u hu
      exact ⟨u, (lookup_eq_some_iff hnames).mp hu, h⟩
    · cases h
  · rintro ⟨u, hu, h⟩
    rw [(lookup_eq_some_iff hnames).mpr hu]
    exact h

theorem isName_of_get? {t u : FileTree} {ns : List Text} (ht : t.WellFormed) (h : t.get? ns = some u) :
    ∀ n ∈ ns, Path.IsName n := by
  induction ns generalizing t with
  | nil => simp
  | cons m ns ih =>
    cases ht with
    | file content => cases h
    | directory hnodup hnames hbelow =>
      obtain ⟨v, hv, h⟩ := (get?_cons hnodup).mp h
      intro n hn
      rcases List.mem_cons.mp hn with rfl | hn
      · exact hnames _ hv
      · exact ih (hbelow _ hv) h n hn

end FileTree

end FrontLint
