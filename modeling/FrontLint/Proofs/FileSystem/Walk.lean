/-
  FrontLint.Proofs.FileSystem.Walk — where a path leads.

  Following pieces can fail, but where they lead does not depend on the tree: a name goes down, `..` goes
  up, and pieces that name nothing stay (`enter`, `settle`). Proved:
  - `walk_append`: pieces are followed one after the other.
  - `eq_settle_of_walk`: if they can be followed, they lead where they settle.
  - `walk_steps_append`: pieces that name nothing may be left out in front of others.
  - `walk_front`: what can be followed can be followed in part.
  - `walk_entry`: an entry of a directory is reached from there exactly if it is in the tree.
  - `walk_of_resolve`: a path that leads somewhere can be followed step by step.
  - `pathExists_join`: the path of an entry, joined to that of its directory.
-/

import FrontLint.FileSystem.Basic
import FrontLint.Proofs.FileSystem.Tree
import FrontLint.Proofs.Path.Ancestors

namespace FrontLint

namespace FileSystem

/-! ## Where pieces lead -/

/-- The directory after a piece. -/
def enter (here : List Text) (piece : Text) : List Text :=
  if Path.isVoid piece then here else if piece = ['.', '.'] then here.dropLast else here ++ [piece]

/-- The directory after some pieces. -/
def settle (here : List Text) (pieces : List Text) : List Text := pieces.foldl enter here

variable {root : FileTree} {here there : List Text} {pieces : List Text}

theorem settle_concat (here pieces : List Text) (piece : Text) :
    settle here (pieces ++ [piece]) = enter (settle here pieces) piece := by
  simp [settle]

theorem enter_void {piece : Text} (h : Path.isVoid piece = true) : enter here piece = here := if_pos h

theorem enter_name {piece : Text} (hvoid : Path.isVoid piece = false) (hup : piece ≠ ['.', '.']) :
    enter here piece = here ++ [piece] := by
  rw [enter, hvoid, if_neg (by simp), if_neg hup]

/-- Pieces that name nothing lead nowhere. -/
theorem settle_steps (here pieces : List Text) : settle here (pieces.filter (!Path.isVoid ·)) = settle here pieces := by
  induction pieces generalizing here with
  | nil => rfl
  | cons piece pieces ih =>
    by_cases hvoid : Path.isVoid piece = true
    · rw [List.filter_cons_of_neg (by simpa using hvoid), ih]
      simp [settle, enter_void hvoid]
    · rw [List.filter_cons_of_pos (by simpa using hvoid)]
      exact ih (enter here piece)

/-- A piece leads down by one name at most, and up by one. -/
theorem length_enter (here : List Text) (piece : Text) :
    here.length ≤ (enter here piece).length + 1 ∧ (enter here piece).length ≤ here.length + 1 := by
  unfold enter
  split
  · omega
  · split
    · rw [List.length_dropLast]
      omega
    · rw [List.length_append, List.length_singleton]
      omega

theorem length_settle (here pieces : List Text) :
    here.length ≤ (settle here pieces).length + pieces.length ∧
      (settle here pieces).length ≤ here.length + pieces.length := by
  induction pieces generalizing here with
  | nil => simp [settle]
  | cons piece pieces ih =>
    obtain ⟨hup, hdown⟩ := length_enter here piece
    obtain ⟨hup', hdown'⟩ := ih (enter here piece)
    have hcons : settle here (piece :: pieces) = settle (enter here piece) pieces := rfl
    rw [hcons, List.length_cons]
    omega

/-! ## Following pieces -/

-- The equations of `walk` are worked out here once, for the proofs that follow.
attribute [local simp] walk in
theorem walk_append (root : FileTree) (here xs ys : List Text) :
    walk root here (xs ++ ys) = (walk root here xs).bind fun there => walk root there ys := by
  induction xs generalizing here with
  | nil => rfl
  | cons x xs ih =>
    simp only [List.cons_append, walk]
    split
    · rfl
    · rfl
    · split
      · exact ih here
      · split
        · exact ih here.dropLast
        · split
          · exact ih (here ++ [x])
          · rfl

/-- A piece that can be followed: from a directory, and if it is a name, to one of its entries. -/
theorem walk_cons_eq_ok {piece : Text} :
    walk root here (piece :: pieces) = .ok there ↔
      ∃ entries, root.get? here = some (.directory entries) ∧
        (Path.isVoid piece = true ∨ piece = ['.', '.'] ∨ (entries.lookup piece).isSome = true) ∧
        walk root (enter here piece) pieces = .ok there := by
  simp only [walk, enter]
  cases hroot : root.get? here with
  | none => simp
  | some t =>
    cases t with
    | file content => simp
    | directory entries =>
      simp only [Option.some.injEq, FileTree.directory.injEq, exists_eq_left']
      generalize (entries.lookup piece).isSome = present
      by_cases hvoid : Path.isVoid piece = true
      · simp [hvoid]
      · by_cases hup : piece = ['.', '.']
        · simp [hup, Path.isVoid]
        · cases present with
          | false => simp [hvoid, hup]
          | true => simp [hvoid, hup]

theorem eq_settle_of_walk (h : walk root here pieces = .ok there) : there = settle here pieces := by
  induction pieces generalizing here with
  | nil => exact (Except.ok.inj h).symm
  | cons piece pieces ih =>
    obtain ⟨entries, -, -, h⟩ := walk_cons_eq_ok.mp h
    exact ih h

/-- What can be followed can be followed without the pieces that name nothing. -/
theorem walk_steps (h : walk root here pieces = .ok there) :
    walk root here (pieces.filter (!Path.isVoid ·)) = .ok there := by
  induction pieces generalizing here with
  | nil => exact h
  | cons piece pieces ih =>
    obtain ⟨entries, hdirectory, hpiece, h⟩ := walk_cons_eq_ok.mp h
    by_cases hvoid : Path.isVoid piece = true
    · rw [enter_void hvoid] at h
      rw [List.filter_cons_of_neg (by simpa using hvoid)]
      exact ih h
    · rw [List.filter_cons_of_pos (by simpa using hvoid)]
      exact walk_cons_eq_ok.mpr ⟨entries, hdirectory, hpiece, ih h⟩

/-- Between other pieces, one that names nothing asks for a directory, as the next one does. -/
theorem walk_void {piece : Text} (hvoid : Path.isVoid piece = true) (hne : pieces ≠ []) :
    walk root here (piece :: pieces) = walk root here pieces := by
  obtain ⟨next, rest, rfl⟩ := List.exists_cons_of_ne_nil hne
  simp only [walk, hvoid, if_true]
  cases root.get? here with
  | none => rfl
  | some t =>
    cases t with
    | file content => rfl
    | directory entries => rfl

theorem walk_steps_append (here front : List Text) (hne : pieces ≠ []) :
    walk root here (front ++ pieces) = walk root here (front.filter (!Path.isVoid ·) ++ pieces) := by
  induction front generalizing here with
  | nil => rfl
  | cons piece front ih =>
    by_cases hvoid : Path.isVoid piece = true
    · rw [List.filter_cons_of_neg (by simpa using hvoid), List.cons_append, walk_void hvoid (by simp [hne]), ih]
    · rw [List.filter_cons_of_pos (by simpa using hvoid)]
      simp only [List.cons_append, walk, ih]

/-- What can be followed can be followed in part. -/
theorem walk_front {front : List Text} (h : walk root here pieces = .ok there) (hfront : front <+: pieces) :
    walk root here front = .ok (settle here front) := by
  obtain ⟨rest, rfl⟩ := hfront
  rw [walk_append] at h
  cases hwalk : walk root here front with
  | error e =>
    rw [hwalk] at h
    cases h
  | ok d => rw [eq_settle_of_walk hwalk]

/-- An entry is reached from its directory, and only if it is there. -/
theorem walk_entry {n : Text} (hn : Path.IsName n) :
    walk root here [n] = .ok there ↔ (root.get? (here ++ [n])).isSome = true ∧ there = here ++ [n] := by
  rw [walk_cons_eq_ok, FileTree.get?_append, enter_name hn.not_void hn.ne_up]
  have hstep : ∀ entries, (Path.isVoid n = true ∨ n = ['.', '.'] ∨ (entries.lookup n).isSome = true) ↔
      ((FileTree.directory entries).get? [n]).isSome = true := by
    intro entries
    simp only [hn.not_void, hn.ne_up, Bool.false_eq_true, false_or, FileTree.get?]
    cases entries.lookup n with
    | none => rfl
    | some t => rfl
  simp only [hstep, walk]
  cases root.get? here with
  | none => simp
  | some t =>
    cases t with
    | file content => simp [FileTree.get?]
    | directory entries =>
      simp only [Option.some.injEq, FileTree.directory.injEq, exists_eq_left', Except.ok.injEq, Option.bind_some]
      exact and_congr_right fun _ => eq_comm

/-! ## Following paths -/

variable {fs : FileSystem} {p q : Path} {n : Text}

theorem walk_of_resolve (h : fs.resolve p = .ok there) : walk fs.root (fs.origin p) p.steps = .ok there := by
  unfold resolve at h
  split at h
  · cases h
  · exact walk_steps h

theorem resolve_join (hn : Path.IsName n) (q : Path) :
    fs.resolve (q.join ⟨n⟩) = walk fs.root (fs.origin q) (q.steps ++ [n]) := by
  obtain ⟨front, hsplit, hfront⟩ := Path.splitOn_join hn q
  have hne : (q.join ⟨n⟩).text ≠ [] := by
    intro h
    rw [h] at hsplit
    have hlast := congrArg List.getLast? hsplit
    rw [List.getLast?_concat] at hlast
    exact hn.ne_nil (Option.some.inj hlast).symm
  rw [resolve, if_neg (by simpa using hne), hsplit, walk_steps_append _ _ (by simp), hfront, origin, origin,
    Path.isAbsolute_join hn]

theorem pathExists_of_resolve (h : fs.resolve p = .ok there) : fs.pathExists p = (fs.root.get? there).isSome := by
  simp only [pathExists, find, h, bind, Except.bind]
  cases fs.root.get? there with
  | none => rfl
  | some t => rfl

/-- An entry of the directory that a path leads to. -/
theorem pathExists_join (hn : Path.IsName n) (h : walk fs.root (fs.origin q) q.steps = .ok there) :
    fs.pathExists (q.join ⟨n⟩) = (fs.root.get? (there ++ [n])).isSome ∧
      ((fs.root.get? (there ++ [n])).isSome = true → fs.resolve (q.join ⟨n⟩) = .ok (there ++ [n])) := by
  have hresolve : fs.resolve (q.join ⟨n⟩) = walk fs.root there [n] := by
    rw [resolve_join hn, walk_append, h]
    rfl
  cases hwalk : walk fs.root there [n] with
  | ok entry =>
    obtain ⟨hsome, rfl⟩ := (walk_entry hn).mp hwalk
    rw [hwalk] at hresolve
    exact ⟨pathExists_of_resolve hresolve, fun _ => hresolve⟩
  | error e =>
    have hnone : (fs.root.get? (there ++ [n])).isSome = false := by
      rw [Bool.eq_false_iff]
      intro hsome
      rw [(walk_entry hn).mpr ⟨hsome, rfl⟩] at hwalk
      cases hwalk
    rw [hwalk] at hresolve
    rw [hnone]
    refine ⟨?_, by simp⟩
    unfold pathExists find
    rw [hresolve]
    rfl

end FileSystem

end FrontLint
