/-
  FrontLint.Proofs.FileSystem.Grove — trees in which every walk over given names goes through.

  In a grove each directory has every name for an entry, down to a depth, and one directory, the marked
  one, holds a labelled file. Proved:
  - `wellFormed_grove`: a grove is a file tree as any other.
  - `get?_grove`: what stands at the end of some names is a grove again.
  - `isSome_get?_label`: the labelled file stands in the marked directory alone.
  - `walk_grove`: pieces that are names of the grove lead where they settle.
-/

import FrontLint.Proofs.FileSystem.Walk
import Mathlib.Data.List.Nodup

namespace FrontLint

namespace FileTree

/-- The entries of a directory in a grove, with what is below each name. -/
def groveEntries (names : List Text) (label : Text) (mark : List Text) (below : List Text → FileTree)
    (here : List Text) : List (Text × FileTree) :=
  (if here = mark then [(label, .file ByteArray.empty)] else []) ++ names.map fun x => (x, below (here ++ [x]))

/-- Every directory has the same names, down to a depth; the one at `mark` also holds a file. -/
def grove (names : List Text) (label : Text) (mark : List Text) : Nat → List Text → FileTree
  | 0, _ => .directory []
  | n + 1, here => .directory (groveEntries names label mark (grove names label mark n) here)

variable {names : List Text} {label : Text} {mark here ds : List Text} {below : List Text → FileTree} {n : Nat}

theorem mem_groveEntries {e : Text × FileTree} :
    e ∈ groveEntries names label mark below here ↔
      (here = mark ∧ e = (label, .file ByteArray.empty)) ∨ ∃ x ∈ names, e = (x, below (here ++ [x])) := by
  rw [groveEntries, List.mem_append, List.mem_map]
  refine or_congr ?_ ?_
  · split
    · rename_i h
      simp [h]
    · rename_i h
      simp [h]
  · exact ⟨fun ⟨x, hx, h⟩ => ⟨x, hx, h.symm⟩, fun ⟨x, hx, h⟩ => ⟨x, hx, h.symm⟩⟩

section Grove

variable (hnodup : names.Nodup) (hlabel : label ∉ names)
include hnodup hlabel

theorem nodup_groveEntries : ((groveEntries names label mark below here).map (·.1)).Nodup := by
  have hmap : (names.map fun x => (x, below (here ++ [x]))).map (·.1) = names := by
    rw [List.map_map]
    exact List.map_id names
  rw [groveEntries, List.map_append, hmap]
  split
  · exact List.nodup_cons.mpr ⟨hlabel, hnodup⟩
  · exact hnodup

theorem wellFormed_grove (hnames : ∀ x ∈ label :: names, Path.IsName x) (n : Nat) (here : List Text) :
    (grove names label mark n here).WellFormed := by
  induction n generalizing here with
  | zero => exact .directory (by simp) (by simp) (by simp)
  | succ n ih =>
    refine .directory (nodup_groveEntries hnodup hlabel) (fun e he => ?_) fun e he => ?_
    · rcases mem_groveEntries.mp he with ⟨-, rfl⟩ | ⟨x, hx, rfl⟩
      · exact hnames label List.mem_cons_self
      · exact hnames x (List.mem_cons_of_mem label hx)
    · rcases mem_groveEntries.mp he with ⟨-, rfl⟩ | ⟨x, hx, rfl⟩
      · exact .file _
      · exact ih (here ++ [x])

theorem get?_grove (mark here : List Text) (hds : ∀ x ∈ ds, x ∈ names) (hlength : ds.length ≤ n) :
    (grove names label mark n here).get? ds = some (grove names label mark (n - ds.length) (here ++ ds)) := by
  induction ds generalizing n here with
  | nil => simp [get?]
  | cons x ds ih =>
    cases n with
    | zero => simp at hlength
    | succ n =>
      rw [grove, get?_cons (nodup_groveEntries hnodup hlabel)]
      refine ⟨_, mem_groveEntries.mpr (.inr ⟨x, hds x List.mem_cons_self, rfl⟩), ?_⟩
      rw [ih (here ++ [x]) (fun y hy => hds y (List.mem_cons_of_mem x hy)) (by simpa using hlength), List.length_cons,
        Nat.add_sub_add_right, List.append_assoc, List.singleton_append]

/-- The labelled file stands in the marked directory alone. -/
theorem isSome_get?_label (hds : ∀ x ∈ ds, x ∈ names) (hlength : ds.length < n) :
    ((grove names label mark n []).get? (ds ++ [label])).isSome = true ↔ ds = mark := by
  obtain ⟨k, hk⟩ : ∃ k, n - ds.length = k + 1 := ⟨n - ds.length - 1, by omega⟩
  rw [get?_append, get?_grove hnodup hlabel mark [] hds (by omega), hk, List.nil_append, Option.bind_some,
    Option.isSome_iff_exists]
  simp only [grove, get?_cons (nodup_groveEntries hnodup hlabel), mem_groveEntries]
  constructor
  · rintro ⟨-, u, ⟨h, -⟩ | ⟨x, hx, h⟩, -⟩
    · exact h
    · exact absurd ((Prod.mk.inj h).1 ▸ hx) hlabel
  · intro h
    exact ⟨_, _, .inl ⟨h, rfl⟩, rfl⟩

end Grove

end FileTree

namespace FileSystem

open FileTree (grove)

variable {names : List Text} {label : Text} {mark here pieces : List Text} {n : Nat}

/-- Pieces of a path over some names. -/
def Over (names pieces : List Text) : Prop :=
  ∀ s ∈ pieces, Path.isVoid s = true ∨ s = ['.', '.'] ∨ s ∈ names

theorem mem_enter {s : Text} (hhere : ∀ x ∈ here, x ∈ names)
    (hs : Path.isVoid s = true ∨ s = ['.', '.'] ∨ s ∈ names) : ∀ x ∈ enter here s, x ∈ names := by
  unfold enter
  split
  · exact hhere
  · split
    · exact fun x hx => hhere x (List.dropLast_subset here hx)
    · rename_i hvoid hup
      intro x hx
      rcases List.mem_append.mp hx with hx | hx
      · exact hhere x hx
      · rw [List.mem_singleton.mp hx]
        exact (hs.resolve_left hvoid).resolve_left hup

theorem mem_settle (hhere : ∀ x ∈ here, x ∈ names) (hpieces : Over names pieces) :
    ∀ x ∈ settle here pieces, x ∈ names := by
  induction pieces generalizing here with
  | nil => exact hhere
  | cons s pieces ih =>
    exact ih (mem_enter hhere (hpieces s List.mem_cons_self)) fun s' hs' => hpieces s' (List.mem_cons_of_mem s hs')

theorem walk_grove (hnodup : names.Nodup) (hlabel : label ∉ names) (hhere : ∀ x ∈ here, x ∈ names)
    (hpieces : Over names pieces) (hlength : here.length + pieces.length ≤ n) :
    walk (grove names label mark n []) here pieces = .ok (settle here pieces) := by
  induction pieces generalizing here with
  | nil => rfl
  | cons s pieces ih =>
    rw [List.length_cons] at hlength
    obtain ⟨k, hk⟩ : ∃ k, n - here.length = k + 1 := ⟨n - here.length - 1, by omega⟩
    have hget := FileTree.get?_grove hnodup hlabel mark [] hhere (n := n) (by omega)
    rw [hk, grove] at hget
    have hs := hpieces s List.mem_cons_self
    refine walk_cons_eq_ok.mpr ⟨_, hget, ?_, ?_⟩
    · refine hs.imp_right (Or.imp_right fun hmem => ?_)
      rw [Option.isSome_iff_exists]
      exact ⟨_, (FileTree.lookup_eq_some_iff (FileTree.nodup_groveEntries hnodup hlabel)).mpr
        (FileTree.mem_groveEntries.mpr (.inr ⟨s, hmem, rfl⟩))⟩
    · have hstep := (length_enter here s).2
      exact ih (mem_enter hhere hs) (fun s' hs' => hpieces s' (List.mem_cons_of_mem s hs')) (by omega)

end FileSystem

end FrontLint
