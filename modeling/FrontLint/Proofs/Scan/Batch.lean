/-
  FrontLint.Proofs.Scan.Batch — the report of many files.

  Each file gives its findings that are grave enough, or one entry that says why it was skipped
  (`Yields`). Proved:
  - `file_of_mem_candidatesIn`: what is found in a file carries its path, so findings of two files never
    compare equal.
  - `findings_scanFiles_perm` / `skipped_scanFiles_perm`: neither list of a report depends on the order
    of the files.
  - `exitCode_scanFiles`: a batch fails if a file that can be scanned has an error, whatever the least
    severity.
  - `scanFiles_batch`: the whole.
-/

import FrontLint.Proofs.Report.Order
import FrontLint.Proofs.Scan.Places
import FrontLint.Scan.Batch
import Mathlib.Data.List.Forall2

namespace FrontLint

/-! ## The file of a finding -/

theorem LinePass.file_of_mem_candidates {p : LinePass} {t : RuleTable} {lines : List Text} {c : Candidate}
    (h : c ∈ p.candidates t lines) : c.context.file = p.file := by
  obtain ⟨l, r, m, -, -, -, rfl⟩ := exists_of_mem_candidates h
  rfl

theorem SpanPass.file_of_mem_candidates {p : SpanPass} {t : RuleTable} {residue : Text} {c : Candidate}
    (h : c ∈ p.candidates t residue) : c.context.file = p.file := by
  obtain ⟨r, -, m, -, -, rfl⟩ := exists_of_mem_candidates h
  rfl

namespace Scanner

variable {s : Scanner} {fs : FileSystem} {root : Path} {least : Severity}

theorem file_of_mem_candidatesIn {file : SourceFile} {k : FileClass} {c : Candidate}
    (h : c ∈ s.candidatesIn file k) : c.context.file = file.path := by
  unfold candidatesIn at h
  split at h
  · simp only [componentCandidates, List.mem_append, List.mem_flatMap, or_assoc] at h
    rcases h with ⟨b, -, h⟩ | ⟨b, -, h⟩ | h | h
    · exact LinePass.file_of_mem_candidates h
    · exact LinePass.file_of_mem_candidates h
    · exact LinePass.file_of_mem_candidates h
    · exact SpanPass.file_of_mem_candidates h
  · exact LinePass.file_of_mem_candidates h
  · exact LinePass.file_of_mem_candidates h

theorem path_of_readSource {path : Path} {file : SourceFile} (h : readSource fs path = .ok file) :
    file.path = path.toString := by
  unfold readSource at h
  split at h
  · cases h
  · split at h
    · cases h
      rfl
    · cases h

theorem file_of_scanPath {path : Path} {found : List Finding} (h : s.scanPath fs root path = .ok found)
    {f : Finding} (hf : f ∈ found) : f.file = path.toString := by
  unfold scanPath candidatesAt at h
  cases hread : readSource fs path with
  | error e =>
    rw [hread] at h
    cases h
  | ok file =>
    rw [hread] at h
    cases h
    obtain ⟨c, hc, rfl⟩ := List.mem_map.mp hf
    rw [← path_of_readSource hread]
    exact file_of_mem_candidatesIn (List.mem_filter.mp hc).1

/-! ## What a file adds -/

/-- What a file adds to a report: its findings that are grave enough, or the entry that says why it is
skipped. -/
inductive Yields (s : Scanner) (fs : FileSystem) (root : Path) (least : Severity) (path : Path) :
    List Finding × Option SkippedFile → Prop
  | scanned {found : List Finding} : s.scanPath fs root path = .ok found →
      Yields s fs root least path (found.filter (least.rank ≤ ·.severity.rank), none)
  | failed {e : ScanError} : s.scanPath fs root path = .error e →
      Yields s fs root least path ([], some ⟨path.toString, e.message⟩)

theorem yields (s : Scanner) (fs : FileSystem) (root : Path) (least : Severity) (path : Path) :
    s.Yields fs root least path (s.findingsAt fs root least path, s.skipAt? fs root path) := by
  unfold findingsAt skipAt?
  cases h : s.scanPath fs root path with
  | ok found => exact .scanned h
  | error e => exact .failed h

theorem file_of_mem_findingsAt (path : Path) : ∀ f ∈ s.findingsAt fs root least path, f.file = path.toString := by
  intro f hf
  unfold findingsAt at hf
  split at hf
  · rename_i found h
    exact file_of_scanPath h (List.mem_filter.mp hf).1
  · simp at hf

theorem path_of_mem_skipAt? (path : Path) :
    ∀ k ∈ (s.skipAt? fs root path).toList, k.path = path.toString := by
  intro k hk
  unfold skipAt? at hk
  split at hk
  · simp at hk
  · rw [Option.toList_some, List.mem_singleton] at hk
    rw [hk]

/-! ## The report -/

section Report

variable {files files' : List Path}

theorem findings_scanFiles_perm (hdistinct : (files.map Path.toString).Nodup) (hperm : files'.Perm files) :
    (s.scanFiles fs root least files').findings = (s.scanFiles fs root least files).findings :=
  mergeSort_flatMap_perm Finding.file_eq_of_order_eq file_of_mem_findingsAt hdistinct hperm

theorem skipped_scanFiles_perm (hdistinct : (files.map Path.toString).Nodup) (hperm : files'.Perm files) :
    (s.scanFiles fs root least files').skipped = (s.scanFiles fs root least files).skipped := by
  have hname : ∀ a b : SkippedFile, compareOn SkippedFile.path a b = .eq → a.path = b.path :=
    fun a b h => Std.LawfulEqCmp.compare_eq_iff_eq.mp h
  have hentry : ∀ path, ∀ k ∈ (s.skipAt? fs root path).toList, k.path = path.toString := path_of_mem_skipAt?
  have h := mergeSort_flatMap_perm hname hentry hdistinct hperm
  rw [← List.filterMap_eq_flatMap_toList, ← List.filterMap_eq_flatMap_toList] at h
  exact h

theorem filesScanned_add (s : Scanner) (fs : FileSystem) (root : Path) (least : Severity) (files : List Path) :
    (s.scanFiles fs root least files).filesScanned + (s.scanFiles fs root least files).filesSkipped =
      files.length := by
  have hle : (files.filterMap (s.skipAt? fs root)).length ≤ files.length := List.length_filterMap_le _ _
  simp only [scanFiles, Report.ofFindings, Report.filesSkipped, List.length_mergeSort]
  omega

theorem scanFiles_perm (hdistinct : (files.map Path.toString).Nodup) (hperm : files'.Perm files) :
    s.scanFiles fs root least files' = s.scanFiles fs root least files := by
  have hfindings : (s.scanFiles fs root least files').findings = (s.scanFiles fs root least files).findings :=
    findings_scanFiles_perm hdistinct hperm
  have hskipped : (s.scanFiles fs root least files').skipped = (s.scanFiles fs root least files).skipped :=
    skipped_scanFiles_perm hdistinct hperm
  have hscanned : (s.scanFiles fs root least files').filesScanned =
      (s.scanFiles fs root least files).filesScanned := by
    have h' := filesScanned_add s fs root least files'
    have h := filesScanned_add s fs root least files
    have hlen := hperm.length_eq
    rw [Report.filesSkipped, hskipped] at h'
    rw [Report.filesSkipped] at h
    omega
  generalize s.scanFiles fs root least files' = r' at *
  generalize s.scanFiles fs root least files = r at *
  cases r
  cases r'
  simp only at hfindings hskipped hscanned
  rw [hfindings, hskipped, hscanned]

/-- An error passes every least severity. -/
theorem atLeast_of_error {v : Severity} (h : v = .error) : v.atLeast least = true := by
  rw [h]
  cases least <;> rfl

theorem mem_findings_scanFiles {f : Finding} :
    f ∈ (s.scanFiles fs root least files).findings ↔
      ∃ path ∈ files, ∃ found, s.scanPath fs root path = .ok found ∧ f ∈ found ∧ f.severity.atLeast least = true := by
  have hat : ∀ path, f ∈ s.findingsAt fs root least path ↔
      ∃ found, s.scanPath fs root path = .ok found ∧ f ∈ found ∧ f.severity.atLeast least = true := by
    intro path
    unfold findingsAt
    cases s.scanPath fs root path <;> simp
  simp only [scanFiles, Report.ofFindings, List.mem_mergeSort, List.mem_flatMap, hat]

/-- A batch fails if a file that can be scanned has an error. -/
theorem exitCode_scanFiles :
    (s.scanFiles fs root least files).exitCode false = 1 ↔
      ∃ path ∈ files, ∃ found, s.scanPath fs root path = .ok found ∧ ∃ f ∈ found, f.severity = .error := by
  have hcount : (s.scanFiles fs root least files).exitCode false = 1 ↔
      ∃ f ∈ (s.scanFiles fs root least files).findings, f.severity = .error := by
    simp [Report.exitCode, Report.counts, Report.countSeverity, List.countP_pos_iff]
  rw [hcount]
  constructor
  · rintro ⟨f, hf, herror⟩
    obtain ⟨path, hpath, found, hfound, hmem, -⟩ := mem_findings_scanFiles.mp hf
    exact ⟨path, hpath, found, hfound, f, hmem, herror⟩
  · rintro ⟨path, hpath, found, hfound, f, hmem, herror⟩
    exact ⟨f, mem_findings_scanFiles.mpr ⟨path, hpath, found, hfound, hmem, atLeast_of_error herror⟩, herror⟩

end Report

/-- The report of files with distinct displayed paths does not depend on their order. It has the findings
that the files yield and one entry for each file that fails, counts every file once, and fails if a file
that can be scanned has an error. -/
theorem scanFiles_batch (s : Scanner) (fs : FileSystem) (root : Path) (least : Severity) {files : List Path}
    (hdistinct : (files.map Path.toString).Nodup) :
    (∀ files', files'.Perm files → s.scanFiles fs root least files' = s.scanFiles fs root least files) ∧
    (∃ parts, List.Forall₂ (s.Yields fs root least) files parts ∧
      (s.scanFiles fs root least files).findings.Perm (parts.flatMap (·.1)) ∧
      (s.scanFiles fs root least files).skipped.Perm (parts.filterMap (·.2))) ∧
    (s.scanFiles fs root least files).filesScanned + (s.scanFiles fs root least files).filesSkipped =
      files.length ∧
    ((s.scanFiles fs root least files).exitCode false = 1 ↔
      ∃ path ∈ files, ∃ found, s.scanPath fs root path = .ok found ∧ ∃ f ∈ found, f.severity = .error) := by
  refine ⟨fun files' hperm => scanFiles_perm hdistinct hperm, ?_, filesScanned_add s fs root least files,
    exitCode_scanFiles⟩
  refine ⟨files.map fun path => (s.findingsAt fs root least path, s.skipAt? fs root path), ?_, ?_, ?_⟩
  · rw [List.forall₂_map_right_iff, List.forall₂_same]
    exact fun path _ => s.yields fs root least path
  · rw [List.flatMap_map]
    exact List.mergeSort_perm _ _
  · rw [List.filterMap_map]
    exact List.mergeSort_perm _ _

/-- A script with an error and a file that is not there. -/
theorem scanFiles_batch_missing_file :
    let pattern : Pattern := ⟨"eval", .ofRegex (.text (Text.ofString "eval"))⟩
    let s : Scanner := ⟨⟨[{ Rule.ofLine "no-eval" pattern with severity := .error }], .none⟩, ⟨[], [], []⟩⟩
    let fs : FileSystem := ⟨.directory [(Text.ofString "a.js", .file "eval(x)".toUTF8)], []⟩
    let root := Path.ofString "."
    let a := Path.ofString "./a.js"
    let b := Path.ofString "./b.js"
    (([a, b].map Path.toString).Nodup ∧ [b, a].Perm [a, b]) ∧
      s.scanPath fs root b = .error (.read b .notFound) ∧
      s.scanFiles fs root .error [b, a] = s.scanFiles fs root .error [a, b] ∧
      (s.scanFiles fs root .error [a, b]).exitCode false = 1 := by
  intro pattern s fs root a b
  have hdistinct : ([a, b].map Path.toString).Nodup := by decide
  have hscan : s.scanPath fs root a =
      .ok [⟨"./a.js", 1, 1, "no-eval", .error, .lint, Text.ofString "eval"⟩] := by
    decide +kernel
  obtain ⟨hperm, -, -, hexit⟩ := scanFiles_batch s fs root .error hdistinct
  exact ⟨⟨hdistinct, List.Perm.swap a b []⟩, by decide +kernel, hperm _ (List.Perm.swap a b []),
    hexit.mpr ⟨a, List.mem_cons_self, _, hscan, _, List.mem_cons_self, rfl⟩⟩

end Scanner

end FrontLint
