/-
  FrontLint.Proofs.Settings.Search — which settings file is found for a path.

  The search drops the last step of the path again and again, whatever that step is. The directories that
  it comes by are the trail of the path. These need not be the directory of the path and those above it:
  a step `..` that is dropped leads down again, and the steps of a relative path end at the working
  directory. File systems have no symbolic links here, and what is proved of the nearest settings file is
  about such file systems. Proved:
  - `findsFirst_trail`: the search finds the first settings file on the trail.
  - `findsFirst_upward`: on a direct path, one that is absolute and whose trail never leaves the way from
    the root, that is the settings file of the nearest directory above it that holds one.
  - `isDirect_of_findsFirst`: and only on direct paths it is so on every file system, paths through
    something that is called as a settings file apart.
  - `search_along_trail`: the three together.
  - `search_astray`: two paths that are not direct, and what is found and not found for them.
-/

import FrontLint.Proofs.FileSystem.Grove
import FrontLint.Settings.Search
import Mathlib.Data.List.Dedup
import Mathlib.Data.List.Infix

namespace FrontLint

open FileSystem (settle walk)

namespace Settings

/-- Whether a directory holds a settings file. -/
def holds (root : FileTree) (d : List Text) : Bool := (root.get? (d ++ [fileName.text])).isSome

/-- A directory and those above it, nearest first. -/
def upward (d : List Text) : List (List Text) := d.inits.reverse

/-- The directories that a path leads to, as its last step is dropped again and again. -/
def trail (origin : List Text) (p : Path) : List (List Text) := (upward p.steps).map (settle origin)

/-- The search finds the settings file of the first of some directories that holds one, and none if none
does. -/
def FindsFirst (fs : FileSystem) (p : Path) (places : List (List Text)) : Prop :=
  (search fs p).map fs.resolve = (places.find? (holds fs.root)).map fun d => .ok (d ++ [fileName.text])

/-- An absolute path that comes by no directory but those above the one it leads to. -/
def IsDirect (p : Path) : Prop := p.isAbsolute = true ∧ ∀ d ∈ trail [] p, d <+: settle [] p.steps

theorem isName_fileName : Path.IsName fileName.text := by
  decide +kernel

theorem upward_concat (d : List Text) (n : Text) : upward (d ++ [n]) = (d ++ [n]) :: upward d := by
  simp [upward, List.inits_append]

theorem mem_upward {c d : List Text} : c ∈ upward d ↔ c <+: d := by
  rw [upward, List.mem_reverse, List.mem_inits]

/-! ## The trail -/

/-- The paths that are tried have the steps of the path, ever fewer; the last may be without steps twice. -/
theorem ancestors_eq {n : Nat} {p : Path} (hn : p.components.length ≤ n) :
    (∀ q ∈ ancestors n p, q.isAbsolute = p.isAbsolute) ∧
      ∃ k, (ancestors n p).map Path.steps = upward p.steps ++ List.replicate k [] := by
  induction n generalizing p with
  | zero =>
    have hnone : p.steps = [] := by
      rw [Path.length_components] at hn
      exact List.length_eq_zero_iff.mp (by omega)
    refine ⟨by simp [ancestors], 0, ?_⟩
    rw [ancestors, hnone]
    simp [hnone, upward]
  | succ n ih =>
    unfold ancestors
    split
    · rename_i q hq
      obtain ⟨habsolute, hsteps, hlength⟩ := Path.parent?_eq_some hq
      obtain ⟨hall, k, hmap⟩ := ih (p := q) (by omega)
      refine ⟨?_, ?_⟩
      · intro r hr
        rcases List.mem_cons.mp hr with rfl | hr
        · rfl
        · rw [hall r hr, habsolute]
      · rw [List.map_cons, hmap, hsteps]
        rcases List.eq_nil_or_concat' p.steps with hnil | ⟨front, last, hconcat⟩
        · refine ⟨k + 1, ?_⟩
          rw [hnil]
          simp [upward, List.replicate_succ]
        · refine ⟨k, ?_⟩
          rw [hconcat, List.dropLast_concat, upward_concat, List.cons_append]
    · rename_i hq
      have hnone : p.steps = [] := Path.steps_of_parent?_eq_none hq
      refine ⟨by simp, 0, ?_⟩
      simp [hnone, upward]

/-- Paths that lead somewhere, tried in turn. -/
theorem find?_candidates {fs : FileSystem} {place : Path → List Text} {paths : List Path}
    (h : ∀ q ∈ paths, walk fs.root (fs.origin q) q.steps = .ok (place q)) :
    ((paths.map (·.join fileName)).find? fs.pathExists).map fs.resolve =
      ((paths.map place).find? (holds fs.root)).map fun d => .ok (d ++ [fileName.text]) := by
  induction paths with
  | nil => rfl
  | cons q paths ih =>
    obtain ⟨hexists, hresolve⟩ := FileSystem.pathExists_join isName_fileName (h q List.mem_cons_self)
    have hexists' : fs.pathExists (q.join fileName) = holds fs.root (place q) := hexists
    rw [List.map_cons, List.map_cons, List.find?_cons, List.find?_cons, hexists']
    cases hholds : holds fs.root (place q) with
    | true => exact congrArg some (hresolve hholds)
    | false => exact ih fun r hr => h r (List.mem_cons_of_mem q hr)

/-- The search finds the first settings file on the trail. -/
theorem findsFirst_trail {fs : FileSystem} {p : Path} {here : List Text} (h : fs.resolve p = .ok here) :
    FindsFirst fs p (trail (fs.origin p) p) := by
  obtain ⟨habsolute, k, hsteps⟩ := ancestors_eq (p := p) (n := p.components.length + 1) (by omega)
  have hwalk : ∀ q ∈ ancestors (p.components.length + 1) p,
      walk fs.root (fs.origin q) q.steps = .ok (settle (fs.origin p) q.steps) := by
    intro q hq
    have horigin : fs.origin q = fs.origin p := by
      rw [FileSystem.origin, FileSystem.origin, habsolute q hq]
    have hfront : q.steps <+: p.steps := by
      have hmem : q.steps ∈ upward p.steps ++ List.replicate k [] := hsteps ▸ List.mem_map_of_mem hq
      rcases List.mem_append.mp hmem with hmem | hmem
      · exact mem_upward.mp hmem
      · rw [List.eq_of_mem_replicate hmem]
        exact List.nil_prefix
    rw [horigin]
    exact FileSystem.walk_front (FileSystem.walk_of_resolve h) hfront
  have hmap : (ancestors (p.components.length + 1) p).map (fun q => settle (fs.origin p) q.steps) =
      trail (fs.origin p) p ++ List.replicate k (fs.origin p) := by
    have hplaces := congrArg (List.map (settle (fs.origin p))) hsteps
    rw [List.map_map, List.map_append, List.map_replicate] at hplaces
    exact hplaces
  rw [FindsFirst, search, candidates, find?_candidates hwalk, hmap, List.find?_append]
  cases hfind : (trail (fs.origin p) p).find? (holds fs.root) with
  | some d => rfl
  | none =>
    -- What is tried twice is the last place of the trail.
    have hlast : fs.origin p ∈ trail (fs.origin p) p :=
      List.mem_map.mpr ⟨[], mem_upward.mpr List.nil_prefix, rfl⟩
    have hnot := List.find?_eq_none.mp hfind _ hlast
    have hnone : (List.replicate k (fs.origin p)).find? (holds fs.root) = none := by
      refine List.find?_eq_none.mpr fun d hd => ?_
      rw [List.eq_of_mem_replicate hd]
      exact hnot
    rw [hnone]
    rfl

/-! ## Direct paths -/

/-- Above a directory that is followed by none that satisfies `P`, the first to do so is the same. -/
theorem find?_upward {P : List Text → Bool} {d e : List Text} (hde : d <+: e)
    (h : ∀ c, c <+: e → d.length < c.length → P c = false) : (upward e).find? P = (upward d).find? P := by
  induction e using List.reverseRecOn with
  | nil => rw [List.prefix_nil.mp hde]
  | append_singleton e n ih =>
    rcases List.prefix_concat_iff.mp hde with rfl | hde
    · rfl
    · have hnot : P (e ++ [n]) = false := by
        refine h _ (List.prefix_refl _) ?_
        have := hde.length_le
        simp
        omega
      rw [upward_concat, List.find?_cons, hnot]
      exact ih hde fun c hc => h c (hc.trans (List.prefix_append _ _))

theorem find?_upward_self {P : List Text → Bool} {d : List Text} (h : P d = true) : (upward d).find? P = some d := by
  rcases List.eq_nil_or_concat' d with rfl | ⟨front, n, rfl⟩
  · exact List.find?_cons_of_pos h
  · rw [upward_concat]
    exact List.find?_cons_of_pos h

/-- On a trail above a directory, the first place to satisfy `P` is the nearest, if none does between that
directory and the start of the trail. -/
theorem find?_trail {P : List Text → Bool} {here ss : List Text}
    (habove : ∀ cs, cs <+: ss → settle [] cs <+: here)
    (hbeyond : ∀ c, c <+: here → (settle [] ss).length < c.length → P c = false) :
    ((upward ss).map (settle [])).find? P = (upward (settle [] ss)).find? P := by
  induction ss using List.reverseRecOn with
  | nil => rfl
  | append_singleton ss s ih =>
    have hd := habove _ (List.prefix_refl (ss ++ [s]))
    have he := habove ss (List.prefix_append ss [s])
    have hstep : (settle [] (ss ++ [s])).length ≤ (settle [] ss).length + 1 := by
      rw [FileSystem.settle_concat]
      exact (FileSystem.length_enter _ s).2
    rw [upward_concat, List.map_cons, List.find?_cons]
    cases hP : P (settle [] (ss ++ [s])) with
    | true => rw [find?_upward_self hP]
    | false =>
      generalize settle [] (ss ++ [s]) = d at hd hstep hP hbeyond
      generalize settle [] ss = e at he hstep ih
      have hfrom : ∀ c, c <+: here → d.length ≤ c.length → P c = false := by
        intro c hc hlength
        by_cases heq : d.length = c.length
        · rw [← (List.prefix_of_prefix_length_le hd hc hlength).eq_of_length heq]
          exact hP
        · exact hbeyond c hc (by omega)
      rw [ih (fun cs hcs => habove cs (hcs.trans (List.prefix_append _ _))) fun c hc hlength => hfrom c hc (by omega)]
      by_cases hlength : d.length ≤ e.length
      · have hde := List.prefix_of_prefix_length_le hd he hlength
        exact find?_upward hde fun c hc hlength => hfrom c (hc.trans he) (by omega)
      · have hed := List.prefix_of_prefix_length_le he hd (by omega)
        exact (find?_upward hed fun c hc hlength => hfrom c (hc.trans hd) (by omega)).symm

/-- On a direct path the search finds the settings file of the nearest directory above. -/
theorem findsFirst_upward {fs : FileSystem} {p : Path} {here : List Text} (hp : IsDirect p)
    (h : fs.resolve p = .ok here) : FindsFirst fs p (upward here) := by
  have horigin : fs.origin p = [] := if_pos hp.1
  have hhere : here = settle [] p.steps := by
    rw [← horigin]
    exact FileSystem.eq_settle_of_walk (FileSystem.walk_of_resolve h)
  have hfirst := findsFirst_trail h
  rw [horigin] at hfirst
  have hfind : (trail [] p).find? (holds fs.root) = (upward here).find? (holds fs.root) := by
    rw [hhere]
    refine find?_trail (fun cs hcs => hp.2 _ (List.mem_map.mpr ⟨cs, mem_upward.mpr hcs, rfl⟩)) ?_
    intro c hc hlength
    exact absurd hc.length_le (by omega)
  rw [FindsFirst, ← hfind]
  exact hfirst

/-! ## Other paths -/

/-- Names for a grove in which a path leads somewhere, and one more for a working directory. -/
def groveNames (p : Path) : List Text := (['d'] :: p.steps.filter (· ≠ ['.', '.'])).dedup

/-- A file system in which a path leads somewhere. One directory holds a settings file. -/
def groveOf (p : Path) (k : Nat) (mark : List Text) : FileSystem :=
  ⟨.grove (groveNames p) fileName.text mark (k + (Text.splitOn (· = '/') p.text).length + 1) [],
    List.replicate k ['d']⟩

section Grove

variable {p : Path} {k : Nat} {mark : List Text}

/-- A directory that the grove of a path is deep enough for. -/
structure InGrove (p : Path) (k : Nat) (d : List Text) : Prop where
  names : ∀ x ∈ d, x ∈ groveNames p
  length_le : d.length ≤ k + (Text.splitOn (· = '/') p.text).length

theorem over_groveNames (p : Path) : FileSystem.Over (groveNames p) (Text.splitOn (· = '/') p.text) := by
  intro s hs
  by_cases hvoid : Path.isVoid s = true
  · exact .inl hvoid
  · by_cases hup : s = ['.', '.']
    · exact .inr (.inl hup)
    · have hstep : s ∈ p.steps := List.mem_filter.mpr ⟨hs, by simpa using hvoid⟩
      simp [groveNames, hstep, hup]

theorem isName_groveNames : ∀ x ∈ groveNames p, Path.IsName x := by
  intro x hx
  rcases List.mem_cons.mp (List.mem_dedup.mp hx) with rfl | hx
  · decide
  · obtain ⟨hx, hup⟩ := List.mem_filter.mp hx
    exact Path.isName_of_mem_steps hx (by simpa using hup)

theorem origin_groveOf (p : Path) (k : Nat) (mark : List Text) :
    (∀ x ∈ (groveOf p k mark).origin p, x ∈ groveNames p) ∧ ((groveOf p k mark).origin p).length ≤ k := by
  unfold FileSystem.origin
  split
  · simp
  · refine ⟨fun x hx => ?_, (List.length_replicate).le⟩
    rw [List.eq_of_mem_replicate hx]
    simp [groveNames]

/-- The trail of a path stays in its grove. -/
theorem inGrove_settle {cs : List Text} (hcs : cs <+: p.steps) :
    InGrove p k (settle ((groveOf p k mark).origin p) cs) := by
  obtain ⟨hnames, hlength⟩ := origin_groveOf p k mark
  refine ⟨FileSystem.mem_settle hnames fun s hs => over_groveNames p s (List.mem_of_mem_filter (hcs.subset hs)), ?_⟩
  have hle := (FileSystem.length_settle ((groveOf p k mark).origin p) cs).2
  have hsteps : p.steps.length ≤ (Text.splitOn (· = '/') p.text).length := List.length_filter_le _ _
  have hfront := hcs.length_le
  omega

variable (hp : fileName.text ∉ p.steps)
include hp

theorem fileName_not_mem_groveNames : fileName.text ∉ groveNames p := by
  intro hmem
  rcases List.mem_cons.mp (List.mem_dedup.mp hmem) with heq | hmem
  · exact absurd heq (by decide +kernel)
  · exact hp (List.mem_of_mem_filter hmem)

theorem wellFormed_groveOf : (groveOf p k mark).root.WellFormed := by
  refine FileTree.wellFormed_grove (List.nodup_dedup _) (fileName_not_mem_groveNames hp) (fun x hx => ?_) _ _
  rcases List.mem_cons.mp hx with rfl | hx
  · exact isName_fileName
  · exact isName_groveNames x hx

theorem resolve_groveOf (hne : p.text ≠ []) (k : Nat) (mark : List Text) :
    (groveOf p k mark).resolve p = .ok (settle ((groveOf p k mark).origin p) p.steps) := by
  obtain ⟨hnames, hlength⟩ := origin_groveOf p k mark
  rw [FileSystem.resolve, if_neg (by simpa using hne), Path.steps, FileSystem.settle_steps]
  exact FileSystem.walk_grove (List.nodup_dedup _) (fileName_not_mem_groveNames hp) hnames (over_groveNames p)
    (by omega)

/-- Of the directories in the grove, the marked one alone holds a settings file. -/
theorem exists_holds_groveOf {places : List (List Text)} (hplaces : ∀ d ∈ places, InGrove p k d) :
    (∃ d ∈ places, holds (groveOf p k mark).root d = true) ↔ mark ∈ places := by
  have hholds : ∀ d ∈ places, holds (groveOf p k mark).root d = true ↔ d = mark := by
    intro d hd
    obtain ⟨hnames, hlength⟩ := hplaces d hd
    exact FileTree.isSome_get?_label (List.nodup_dedup _) (fileName_not_mem_groveNames hp) hnames (by omega)
  constructor
  · rintro ⟨d, hd, h⟩
    rwa [← (hholds d hd).mp h]
  · intro hmark
    exact ⟨mark, hmark, (hholds mark hmark).mpr rfl⟩

/-- Where the search always finds the nearest settings file, the trail of a path comes by the directories
above the one it leads to, and by no others. -/
theorem mem_trail_iff (hne : p.text ≠ [])
    (h : ∀ fs here, fs.root.WellFormed → fs.resolve p = .ok here → FindsFirst fs p (upward here))
    (k : Nat) (mark : List Text) :
    mark ∈ trail ((groveOf p k mark).origin p) p ↔ mark <+: settle ((groveOf p k mark).origin p) p.steps := by
  have hresolve := resolve_groveOf hp hne k mark
  have hfind := (findsFirst_trail hresolve).symm.trans (h _ _ (wellFormed_groveOf hp) hresolve)
  have hsome := congrArg Option.isSome hfind
  rw [Option.isSome_map, Option.isSome_map, Bool.eq_iff_iff, List.find?_isSome, List.find?_isSome,
    exists_holds_groveOf hp, exists_holds_groveOf hp, mem_upward] at hsome
  · exact hsome
  · intro d hd
    exact ⟨fun x hx => (inGrove_settle (List.prefix_refl p.steps)).names x ((mem_upward.mp hd).subset hx),
      (mem_upward.mp hd).length_le.trans (inGrove_settle (List.prefix_refl p.steps)).length_le⟩
  · intro d hd
    obtain ⟨cs, hcs, rfl⟩ := List.mem_map.mp hd
    exact inGrove_settle (mem_upward.mp hcs)

theorem isDirect_of_findsFirst (hne : p.text ≠ [])
    (h : ∀ fs here, fs.root.WellFormed → fs.resolve p = .ok here → FindsFirst fs p (upward here)) : IsDirect p := by
  by_cases habsolute : p.isAbsolute = true
  · refine ⟨habsolute, fun d hd => ?_⟩
    have hmem := mem_trail_iff hp hne h 0 d
    rw [FileSystem.origin, if_pos habsolute] at hmem
    exact hmem.mp hd
  · -- From a working directory that is deep enough, the trail does not come to the root.
    have hmem := (mem_trail_iff hp hne h (p.steps.length + 1) []).mpr List.nil_prefix
    rw [FileSystem.origin, if_neg habsolute] at hmem
    obtain ⟨cs, hcs, hroot⟩ := List.mem_map.mp hmem
    have hlength := (FileSystem.length_settle (List.replicate (p.steps.length + 1) ['d']) cs).1
    have hfront := (mem_upward.mp hcs).length_le
    have hroot' : settle (List.replicate (p.steps.length + 1) ['d']) cs = [] := hroot
    rw [hroot', List.length_replicate, List.length_nil] at hlength
    omega

end Grove

/-- The search finds the first settings file on the trail of a path. On a direct path that is the nearest
one above it, on every file system (none has links), and on no other path, but for those that name a settings
file. -/
theorem search_along_trail (p : Path) :
    (∀ fs here, fs.resolve p = .ok here → FindsFirst fs p (trail (fs.origin p) p)) ∧
      (IsDirect p → ∀ fs here, fs.resolve p = .ok here → FindsFirst fs p (upward here)) ∧
      (p.text ≠ [] → fileName.text ∉ p.steps →
        (∀ fs here, fs.root.WellFormed → fs.resolve p = .ok here → FindsFirst fs p (upward here)) → IsDirect p) := by
  refine ⟨fun fs here h => findsFirst_trail h, fun hdirect fs here h => findsFirst_upward hdirect h, ?_⟩
  intro hne hp h
  exact isDirect_of_findsFirst hp hne h

theorem search_along_trail_of_file :
    let settings := (fileName.text, FileTree.file ByteArray.empty)
    let source := FileTree.directory [(Text.ofString "x.js", .file ByteArray.empty)]
    let project := FileTree.directory [(Text.ofString "src", source), settings]
    let fs : FileSystem := ⟨.directory [settings, (Text.ofString "w", project)], []⟩
    let p := Path.ofString "/w/./src//x.js"
    let here := [Text.ofString "w", Text.ofString "src", Text.ofString "x.js"]
    IsDirect p ∧ fs.resolve p = .ok here ∧ FindsFirst fs p (upward here) ∧
      (upward here).find? (holds fs.root) = some [Text.ofString "w"] := by
  intro settings source project fs p here
  have hdirect : IsDirect p := ⟨by decide +kernel, by decide +kernel⟩
  have hresolve : fs.resolve p = .ok here := by decide +kernel
  exact ⟨hdirect, hresolve, (search_along_trail p).2.1 hdirect fs here hresolve, by decide +kernel⟩

/-- From `a/..`, which leads to the working directory, the settings of `a` are found, and none are above
the working directory. From `.`, none are found, and the root holds some. -/
theorem search_astray :
    let settings := (fileName.text, FileTree.file ByteArray.empty)
    let here := [Text.ofString "w"]
    let below : FileSystem :=
      ⟨.directory [(Text.ofString "w", .directory [(Text.ofString "a", .directory [settings])])], here⟩
    let above : FileSystem := ⟨.directory [(Text.ofString "w", .directory []), settings], here⟩
    (below.resolve (.ofString "a/..") = .ok here ∧ (upward here).find? (holds below.root) = none ∧
        search below (.ofString "a/..") = some (.ofString "a/glint.toml")) ∧
      (above.resolve (.ofString ".") = .ok here ∧ (upward here).find? (holds above.root) = some [] ∧
        search above (.ofString ".") = none) := by
  decide +kernel

end Settings

end FrontLint
