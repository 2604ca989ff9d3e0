/-
  FrontLint.Proofs.Scan.Discovery — which files a scan of a directory reads.

  Names on the way from the directory stand for the files below it. The walk leaves out every entry whose
  name is hidden, a directory with all that is below it, and so also a file that is hidden itself. In a
  well-formed tree each file is met once, whatever the order of the entries. Proved:
  - `wellFormed_perm`: a directory has the same files whatever the order of its entries.
  - `mem_visibleFiles` / `nodup_visibleFiles`: the walk meets each file that no name on the way hides, once.
  - `components_below` / `relativeTo?_below`: the path of a file below a directory, and seen from there.
  - `mem_inDirectory` / `inDirectory_sorted`: what is found in a directory, and its order.
  - `files_discovered`: the files to scan; they are those that are due (`Due`), but for dotfiles.
  - `dotfile_left_out`: a file that is due and not found.
-/

import FrontLint.Proofs.FileSystem.Tree
import FrontLint.Proofs.Path.Order
import FrontLint.Scan.Discovery
import Mathlib.Data.List.Nodup

namespace FrontLint

/-! ## Files of a tree -/

namespace FileTree

/-- Whether a file stands at the end of a list of names. -/
def HasFile (t : FileTree) (ns : List Text) : Prop := ∃ content, t.get? ns = some (.file content)

theorem hasFile_cons {entries : List (Text × FileTree)} (hnames : (entries.map (·.1)).Nodup) {n : Text}
    {ns : List Text} : (directory entries).HasFile (n :: ns) ↔ ∃ u, (n, u) ∈ entries ∧ u.HasFile ns := by
  simp only [HasFile, get?_cons hnames]
  exact ⟨fun ⟨c, u, hu, h⟩ => ⟨u, hu, c, h⟩, fun ⟨u, hu, c, h⟩ => ⟨c, u, hu, h⟩⟩

/-- A directory has the same files whatever the order of its entries. -/
theorem wellFormed_perm {entries entries' : List (Text × FileTree)} (ht : (directory entries).WellFormed)
    (hperm : entries'.Perm entries) :
    (directory entries').WellFormed ∧ ∀ ns, (directory entries').HasFile ns ↔ (directory entries).HasFile ns := by
  obtain _ | ⟨hnodup, hnames, hbelow⟩ := ht
  have hnodup' : (entries'.map (·.1)).Nodup := (hperm.map _).nodup_iff.mpr hnodup
  have ht' : (directory entries').WellFormed :=
    .directory hnodup' (fun e he => hnames e (hperm.mem_iff.mp he)) fun e he => hbelow e (hperm.mem_iff.mp he)
  refine ⟨ht', fun ns => ?_⟩
  cases ns with
  | nil => simp [HasFile, get?]
  | cons n ns => simp only [hasFile_cons hnodup, hasFile_cons hnodup', hperm.mem_iff]

/-! ## The walk -/

/-- What the walk meets of an entry. -/
def visibleBelow (e : Text × FileTree) : List (List Text) :=
  if isHidden e.1 then [] else e.2.visibleFiles.map (e.1 :: ·)

theorem visibleIn_eq (entries : List (Text × FileTree)) : visibleIn entries = entries.flatMap visibleBelow := by
  induction entries with
  | nil => rfl
  | cons e rest ih =>
    obtain ⟨name, t⟩ := e
    rw [visibleIn, ih, List.flatMap_cons]
    rfl

theorem mem_visibleBelow {e : Text × FileTree} {ns : List Text} :
    ns ∈ visibleBelow e ↔ isHidden e.1 = false ∧ ∃ ks ∈ e.2.visibleFiles, e.1 :: ks = ns := by
  unfold visibleBelow
  split
  · simp_all
  · simp_all

/-- The walk meets the files that no name on the way hides. -/
theorem mem_visibleFiles {t : FileTree} (ht : t.WellFormed) (ns : List Text) :
    ns ∈ t.visibleFiles ↔ t.HasFile ns ∧ ∀ n ∈ ns, isHidden n = false := by
  induction ns generalizing t with
  | nil =>
    cases ht with
    | file content => simp [visibleFiles, HasFile, get?]
    | directory => simp [visibleFiles, visibleIn_eq, mem_visibleBelow, HasFile, get?]
  | cons n ns ih =>
    cases ht with
    | file content => simp [visibleFiles, HasFile, get?]
    | @directory entries hnodup hnames hbelow =>
      rw [hasFile_cons hnodup, visibleFiles, visibleIn_eq, List.mem_flatMap, List.forall_mem_cons]
      constructor
      · rintro ⟨⟨m, u⟩, hu, h⟩
        obtain ⟨hvisible, ks, hks, heq⟩ := mem_visibleBelow.mp h
        obtain ⟨rfl, rfl⟩ := List.cons.inj heq
        obtain ⟨hns, hrest⟩ := (ih (hbelow _ hu)).mp hks
        exact ⟨⟨u, hu, hns⟩, hvisible, hrest⟩
      · rintro ⟨⟨u, hu, hns⟩, hn, hrest⟩
        exact ⟨(n, u), hu, mem_visibleBelow.mpr ⟨hn, ns, (ih (hbelow _ hu)).mpr ⟨hns, hrest⟩, rfl⟩⟩

/-- And it meets each of them once. -/
theorem nodup_visibleFiles {t : FileTree} (ht : t.WellFormed) : t.visibleFiles.Nodup := by
  induction ht with
  | file content => simp [visibleFiles]
  | @directory entries hnodup _ _ ih =>
    rw [visibleFiles, visibleIn_eq, List.nodup_flatMap]
    refine ⟨fun e he => ?_, ?_⟩
    · unfold visibleBelow
      split
      · exact List.nodup_nil
      · exact (ih e he).map List.cons_injective
    · -- What is below one entry starts with its name.
      refine List.Pairwise.imp ?_ (List.pairwise_map.mp hnodup)
      intro e e' hne ns hns hns'
      obtain ⟨-, ks, -, rfl⟩ := mem_visibleBelow.mp hns
      obtain ⟨-, ks', -, heq⟩ := mem_visibleBelow.mp hns'
      exact hne (List.cons.inj heq).1.symm

end FileTree

/-! ## Paths below a directory -/

namespace Discovery

variable {base : Path} {filter : PathFilter} {t : FileTree} {ns : List Text}

theorem below_eq (hne : ns ≠ []) (hns : ∀ n ∈ ns, Path.IsName n) : below base ns = base.join (.ofNames ns) :=
  Path.foldl_join base hne hns

theorem components_below (hns : ∀ n ∈ ns, Path.IsName n) :
    (below base ns).components = base.components ++ ns.map .name := by
  by_cases hne : ns = []
  · subst hne
    simp [below]
  · have hplain := Path.isPlain_ofNames hne hns
    rw [below_eq hne hns, Path.components_join hplain.lead_eq hplain.text_ne_nil, Path.components_ofNames hns]

/-- Seen from the directory, a file below it is the names on the way. -/
theorem relativeTo?_below (hne : ns ≠ []) (hns : ∀ n ∈ ns, Path.IsName n) :
    (below base ns).relativeTo? base = some (.ofNames ns) := by
  have hplain := Path.isPlain_ofNames hne hns
  rw [below_eq hne hns, Path.relativeTo?_join hplain.lead_eq hplain.text_ne_nil, Path.pieces_ofNames hns,
    Path.trimPieces_names hns]
  rfl

/-- A file of a known kind is not called as installed packages are. -/
theorem ne_packages_of_supported (hns : ∀ n ∈ ns, Path.IsName n) (h : isSupported (below base ns) = true) {n : Text}
    (hn : ns.getLast? = some n) : n ≠ "node_modules".toList := by
  rintro rfl
  have hlast : (below base ns).components.getLast? = some (.name "node_modules".toList) := by
    have hne : ns.map Path.Part.name ≠ [] := by
      intro hnil
      rw [List.map_eq_nil_iff.mp hnil] at hn
      cases hn
    rw [components_below hns, List.getLast?_append_of_ne_nil _ hne, List.getLast?_map, hn]
    rfl
  have hextension : (below base ns).extension? = none := by
    rw [Path.extension?, Path.fileName?, hlast]
    rfl
  simp [isSupported, FileKind.ofPath?, hextension] at h

/-! ## What is found -/

/-- A file that is to be scanned, by the names on the way to it from the directory `base`: it has a kind,
no directory on the way is hidden, and the filter admits its path below the directory. -/
structure Due (base : Path) (filter : PathFilter) (t : FileTree) (ns : List Text) : Prop where
  isFile : t.HasFile ns
  supported : (FileKind.ofPath? (below base ns)).isSome = true
  visible : ∀ n ∈ ns.dropLast, FileTree.isHidden n = false
  admitted : ∃ rel, (below base ns).relativeTo? base = some rel ∧ filter.admits rel.text = true

/-- A file whose own name starts with a dot. -/
def IsDotfile (ns : List Text) : Prop := ∃ n, ns.getLast? = some n ∧ n.head? = some '.'

theorem isHidden_eq_false {n : Text} :
    FileTree.isHidden n = false ↔ n.head? ≠ some '.' ∧ n ≠ "node_modules".toList := by
  rw [FileTree.isHidden, Bool.or_eq_false_iff, decide_eq_false_iff_not, decide_eq_false_iff_not]

section InDirectory

variable {entries : List (Text × FileTree)}

theorem ne_nil_of_hasFile (h : (FileTree.directory entries).HasFile ns) : ns ≠ [] := by
  rintro rfl
  obtain ⟨content, h⟩ := h
  cases h

variable (ht : (FileTree.directory entries).WellFormed)
include ht

theorem isName_of_hasFile (h : (FileTree.directory entries).HasFile ns) : ∀ n ∈ ns, Path.IsName n := by
  obtain ⟨content, h⟩ := h
  exact FileTree.isName_of_get? ht h

/-- The names of the files that are found in a directory. -/
theorem found_iff :
    (ns ∈ (FileTree.directory entries).visibleFiles ∧
      (isSupported (below base ns) && filter.admits (Path.joinPieces ns)) = true) ↔
    Due base filter (.directory entries) ns ∧ ¬ IsDotfile ns := by
  rw [FileTree.mem_visibleFiles ht, Bool.and_eq_true]
  constructor
  · rintro ⟨⟨hfile, hvisible⟩, hsupported, hadmits⟩
    have hnames := isName_of_hasFile ht hfile
    have hne := ne_nil_of_hasFile hfile
    refine ⟨⟨hfile, hsupported, fun n hn => hvisible n (List.dropLast_subset ns hn), _,
      relativeTo?_below hne hnames, hadmits⟩, ?_⟩
    rintro ⟨n, hn, hdot⟩
    exact (isHidden_eq_false.mp (hvisible n (List.mem_of_getLast? hn))).1 hdot
  · rintro ⟨⟨hfile, hsupported, hvisible, rel, hrel, hadmits⟩, hdot⟩
    have hnames := isName_of_hasFile ht hfile
    have hne := ne_nil_of_hasFile hfile
    rw [relativeTo?_below hne hnames] at hrel
    obtain rfl := Option.some.inj hrel
    refine ⟨⟨hfile, fun n hn => ?_⟩, hsupported, hadmits⟩
    -- A name on the way is that of a directory, or the file's own.
    obtain ⟨dirs, last, rfl⟩ := (List.eq_nil_or_concat' ns).resolve_left hne
    rw [List.dropLast_concat] at hvisible
    rcases List.mem_append.mp hn with hn | hn
    · exact hvisible n hn
    · obtain rfl := List.mem_singleton.mp hn
      have hlast : (dirs ++ [n]).getLast? = some n := List.getLast?_concat
      exact isHidden_eq_false.mpr ⟨fun h => hdot ⟨n, hlast, h⟩, ne_packages_of_supported hnames hsupported hlast⟩

theorem mem_inDirectory {p : Path} :
    p ∈ inDirectory base filter (.directory entries) ↔
      ∃ ns, Due base filter (.directory entries) ns ∧ ¬ IsDotfile ns ∧ p = below base ns := by
  simp only [inDirectory, List.mem_mergeSort, List.mem_map, List.mem_filter]
  constructor
  · rintro ⟨ns, hns, rfl⟩
    obtain ⟨hdue, hdot⟩ := (found_iff ht).mp hns
    exact ⟨ns, hdue, hdot, rfl⟩
  · rintro ⟨ns, hdue, hdot, rfl⟩
    exact ⟨ns, (found_iff ht).mpr ⟨hdue, hdot⟩, rfl⟩

/-- What is found is in order, each path strictly before those after it. -/
theorem inDirectory_sorted :
    (inDirectory base filter (.directory entries)).Pairwise fun p q => p.le q = true ∧ q.le p = false := by
  have hsorted : (inDirectory base filter (.directory entries)).Pairwise fun p q => p.le q = true :=
    List.pairwise_mergeSort Path.le_trans Path.le_total _
  have hdistinct : (inDirectory base filter (.directory entries)).Pairwise fun p q =>
      p.components ≠ q.components := by
    refine (List.mergeSort_perm _ _).symm.pairwise ?_ fun h => Ne.symm h
    rw [List.pairwise_map]
    refine List.Pairwise.imp_of_mem ?_ ((FileTree.nodup_visibleFiles ht).filter _)
    intro ns ks hns hks hne heq
    have hns' := isName_of_hasFile ht ((FileTree.mem_visibleFiles ht ns).mp (List.mem_of_mem_filter hns)).1
    have hks' := isName_of_hasFile ht ((FileTree.mem_visibleFiles ht ks).mp (List.mem_of_mem_filter hks)).1
    rw [components_below hns', components_below hks'] at heq
    exact hne (List.map_injective_iff.mpr (fun a b h => Path.Part.name.inj h) (List.append_cancel_left heq))
  refine (hsorted.and hdistinct).imp fun ⟨hle, hne⟩ => ⟨hle, ?_⟩
  rw [Bool.eq_false_iff]
  exact fun hge => hne (Path.components_eq_of_le hle hge)

/-- Two directories with the same files are read alike. -/
theorem inDirectory_congr {entries' : List (Text × FileTree)} (ht' : (FileTree.directory entries').WellFormed)
    (hsame : ∀ ns, (FileTree.directory entries').HasFile ns ↔ (FileTree.directory entries).HasFile ns) :
    inDirectory base filter (.directory entries') = inDirectory base filter (.directory entries) := by
  have hdue : ∀ ns, Due base filter (.directory entries') ns ↔ Due base filter (.directory entries) ns := by
    intro ns
    exact ⟨fun h => ⟨(hsame ns).mp h.isFile, h.supported, h.visible, h.admitted⟩,
      fun h => ⟨(hsame ns).mpr h.isFile, h.supported, h.visible, h.admitted⟩⟩
  have hmem : ∀ p, p ∈ inDirectory base filter (.directory entries') ↔
      p ∈ inDirectory base filter (.directory entries) := by
    intro p
    simp only [mem_inDirectory ht, mem_inDirectory ht', hdue]
  have hnodup : ∀ {l : List Path}, (l.Pairwise fun p q => p.le q = true ∧ q.le p = false) → l.Nodup := by
    intro l hl
    refine hl.imp ?_
    rintro p q ⟨hle, hgt⟩ rfl
    rw [hle] at hgt
    cases hgt
  have hperm := (List.perm_ext_iff_of_nodup (hnodup (inDirectory_sorted ht')) (hnodup (inDirectory_sorted ht))).mpr hmem
  refine hperm.eq_of_pairwise (fun p q _ _ hpq hqp => ?_) (inDirectory_sorted ht') (inDirectory_sorted ht)
  rw [hpq.1] at hqp
  exact absurd hqp.2 (by decide)

end InDirectory

/-- The files to scan below a directory are in strict order, and are those that are due but for dotfiles.
The order in which directories give their entries has no influence. -/
theorem files_discovered {fs : FileSystem} {path : Path} {included excluded : List String} {filter : PathFilter}
    {entries : List (Text × FileTree)} (hfind : fs.find path = .ok (.directory entries))
    (ht : (FileTree.directory entries).WellFormed) (hfilter : PathFilter.ofGlobs included excluded = .ok filter) :
    ∃ found, files fs path included excluded = .ok found ∧
      found.Pairwise (fun p q => p.le q = true ∧ q.le p = false) ∧
      (∀ p, p ∈ found ↔ ∃ ns, Due path filter (.directory entries) ns ∧ ¬ IsDotfile ns ∧ p = below path ns) ∧
      ∀ (fs' : FileSystem) (entries' : List (Text × FileTree)), fs'.find path = .ok (.directory entries') →
        (FileTree.directory entries').WellFormed →
        (∀ ns, (FileTree.directory entries').HasFile ns ↔ (FileTree.directory entries).HasFile ns) →
        files fs' path included excluded = .ok found := by
  have hfiles : ∀ (fs : FileSystem) (entries : List (Text × FileTree)), fs.find path = .ok (.directory entries) →
      files fs path included excluded = .ok (inDirectory path filter (.directory entries)) := by
    intro fs entries hfind
    unfold files
    rw [hfind, hfilter]
    rfl
  refine ⟨_, hfiles fs entries hfind, inDirectory_sorted ht, fun p => mem_inDirectory ht, ?_⟩
  intro fs' entries' hfind' ht' hsame
  rw [hfiles fs' entries' hfind', inDirectory_congr ht ht' hsame]

theorem files_discovered_reversed :
    let entries := [(Text.ofString "lib", FileTree.directory [(Text.ofString "b.vue", .file ByteArray.empty)]),
      (Text.ofString ".git", .directory [(Text.ofString "c.js", .file ByteArray.empty)]),
      (Text.ofString "d.js", .file ByteArray.empty), (Text.ofString "a.js", .file ByteArray.empty)]
    let fs : FileSystem := ⟨.directory entries, []⟩
    let fs' : FileSystem := ⟨.directory entries.reverse, []⟩
    let path := Path.ofString "."
    ∃ found, files fs path [] ["d.*"] = .ok found ∧ files fs' path [] ["d.*"] = .ok found ∧
      Path.ofString "./lib/b.vue" ∈ found := by
  intro entries fs fs' path
  have hfind : fs.find path = .ok (.directory entries) := rfl
  have ht : (FileTree.directory entries).WellFormed := by
    refine .directory (by decide +kernel) (by decide +kernel) ?_
    have hsingle : ∀ n : Text, Path.IsName n →
        (FileTree.directory [(n, .file ByteArray.empty)]).WellFormed := by
      intro n hn
      exact .directory (by simp) (by simpa using hn) (by simpa using .file _)
    simp only [entries, List.forall_mem_cons]
    exact ⟨hsingle _ (by decide +kernel), hsingle _ (by decide +kernel), .file _, .file _, by simp⟩
  obtain ⟨filter, hfilter, hadmits⟩ : ∃ filter, PathFilter.ofGlobs [] ["d.*"] = .ok filter ∧
      filter.admits (Text.ofString "lib/b.vue") = true := by
    have hvalue : (PathFilter.ofGlobs [] ["d.*"]).toOption.map (·.admits (Text.ofString "lib/b.vue")) = some true := by
      decide +kernel
    cases h : PathFilter.ofGlobs [] ["d.*"] with
    | ok filter => exact ⟨filter, rfl, by simpa [h, Except.toOption] using hvalue⟩
    | error e => simp [h, Except.toOption] at hvalue
  obtain ⟨found, hfound, -, hmem, hreordered⟩ := files_discovered hfind ht hfilter
  obtain ⟨ht', hsame⟩ := FileTree.wellFormed_perm ht entries.reverse_perm
  refine ⟨found, hfound, hreordered fs' entries.reverse rfl ht' hsame, (hmem _).mpr ?_⟩
  refine ⟨[Text.ofString "lib", Text.ofString "b.vue"], ⟨⟨ByteArray.empty, rfl⟩, by decide +kernel, by decide +kernel,
    Path.ofString "lib/b.vue", by decide +kernel, hadmits⟩, ?_, by decide +kernel⟩
  rintro ⟨n, hn, hdot⟩
  obtain rfl := Option.some.inj hn
  exact absurd hdot (by decide +kernel)

/-- A settings script at the root of a tree is due: it is a script, no directory hides it, and the filter
admits it. It is not found. -/
theorem dotfile_left_out :
    let entries := [(Text.ofString ".eslintrc.js", FileTree.file ByteArray.empty)]
    let fs : FileSystem := ⟨.directory entries, []⟩
    let path := Path.ofString "."
    fs.find path = .ok (.directory entries) ∧ PathFilter.ofGlobs [] [] = .ok ⟨[], []⟩ ∧
      Due path ⟨[], []⟩ (.directory entries) [Text.ofString ".eslintrc.js"] ∧ files fs path [] [] = .ok [] := by
  intro entries fs path
  have hfind : fs.find path = .ok (.directory entries) := rfl
  have hdue : Due path ⟨[], []⟩ (.directory entries) [Text.ofString ".eslintrc.js"] := by
    refine ⟨⟨ByteArray.empty, rfl⟩, by decide +kernel, by simp, Path.ofString ".eslintrc.js", by decide +kernel,
      by decide +kernel⟩
  exact ⟨hfind, rfl, hdue, by decide +kernel⟩

end Discovery

end FrontLint
