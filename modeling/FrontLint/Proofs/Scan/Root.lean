/-
  FrontLint.Proofs.Scan.Root — where a scanned root lies has no influence on what is found below it.

  A file is told by its whole path and classified by the path below the root. The whole path ends in the
  same name under every root, and so has the same kind; the path below the root is the same, however the
  root is written (`Path.relativeTo?_join`); and the passes put the whole path into what they find and use
  it for nothing else, as long as no validator looks at it (`RuleTable.PathBlind`). Proved:
  - `candidatesIn_inFile`: a file under another path has the same candidates, told of that path.
  - `classPath_join`: the path that a file is classified by.
  - `scanPath_join`: the scan of a path below a root, in terms of what does not depend on the root.
  - `scanPath_below_roots`: two scans of the same file below two roots.
-/

import FrontLint.Proofs.Pass.Relocation
import FrontLint.Proofs.Pass.Spans
import FrontLint.Proofs.Path.Components
import FrontLint.Scan.Batch

namespace FrontLint

/-! ## Under another path -/

/-- The same finding, told of another file. -/
def Finding.inFile (path : String) (f : Finding) : Finding := { f with file := path }

/-- What a validator is told of the same match in another file. -/
def MatchContext.inFile (path : String) (x : MatchContext) : MatchContext := { x with file := path }

/-- No validator of the table looks at the path of a file. -/
def RuleTable.PathBlind (t : RuleTable) : Prop :=
  ∀ r ∈ t.rules, ∀ v, r.validator = some v → ∀ matched file file' line content,
    v.accepts matched ⟨file, line, content⟩ = v.accepts matched ⟨file', line, content⟩

theorem RuleTable.PathBlind.blindTo {t : RuleTable} (ht : t.PathBlind) (path : String) :
    t.BlindTo (MatchContext.inFile path) :=
  fun r hr v hv matched context => ht r hr v hv matched _ _ context.line context.content

theorem SpanPass.candidates_inFile (path path' : String) (c : FileClass) (t : RuleTable) (residue : Text) :
    SpanPass.candidates ⟨path, c⟩ t residue =
      (SpanPass.candidates ⟨path', c⟩ t residue).map (Candidate.seenAs (MatchContext.inFile path)) := by
  have hcandidate : ∀ ix silenced r m, SpanPass.candidate? ⟨path, c⟩ residue ix silenced r m =
      (SpanPass.candidate? ⟨path', c⟩ residue ix silenced r m).map
        (Candidate.seenAs (MatchContext.inFile path)) := by
    intro ix silenced r m
    simp only [candidate?]
    split <;> rfl
  unfold candidates
  rw [List.map_flatMap]
  refine List.flatMap_congr fun r _ => ?_
  rw [List.map_filterMap]
  exact congrArg (List.filterMap · _) (funext fun m => hcandidate _ _ r m)

namespace Scanner

variable {s : Scanner} {fs : FileSystem} {root p : Path}

/-- A file under another path has the same candidates, told of that path. -/
theorem candidatesIn_inFile (s : Scanner) (path : String) (file : SourceFile) (c : FileClass) :
    s.candidatesIn { file with path } c =
      (s.candidatesIn file c).map (Candidate.seenAs (MatchContext.inFile path)) := by
  have hwhole : ∀ mode, s.wholeCandidates { file with path } mode c =
      (s.wholeCandidates file mode c).map (Candidate.seenAs (MatchContext.inFile path)) := by
    intro mode
    exact LinePass.candidates_seenAs (by rfl) (by rfl) (by rfl) (fun _ _ => rfl) _ _
  have hblock : ∀ mode, s.blockCandidates { file with path } mode c =
      fun b => (s.blockCandidates file mode c b).map (Candidate.seenAs (MatchContext.inFile path)) := by
    intro mode
    funext b
    exact LinePass.candidates_seenAs (by rfl) (by rfl) (by rfl) (fun _ _ => rfl) _ _
  have hmarkup : ∀ parts, s.markupCandidates { file with path } c parts =
      (s.markupCandidates file c parts).map (Candidate.seenAs (MatchContext.inFile path)) := by
    intro parts
    exact LinePass.candidates_seenAs (by rfl) (by rfl) (by rfl) (fun _ _ => rfl) _ _
  have hcomponent : s.componentCandidates { file with path } c =
      (s.componentCandidates file c).map (Candidate.seenAs (MatchContext.inFile path)) := by
    simp only [componentCandidates, hblock, hmarkup, SpanPass.candidates_inFile path file.path, List.map_append,
      List.map_flatMap]
  obtain ⟨path', text, kind⟩ := file
  cases kind with
  | component => exact hcomponent
  | script => exact hwhole .script
  | style => exact hwhole .style

theorem rule_mem_of_mem_candidatesIn {file : SourceFile} {k : FileClass} {c : Candidate}
    (h : c ∈ s.candidatesIn file k) : c.rule ∈ s.table.rules := by
  unfold candidatesIn at h
  split at h
  · simp only [componentCandidates, List.mem_append, List.mem_flatMap, or_assoc] at h
    rcases h with ⟨b, -, h⟩ | ⟨b, -, h⟩ | h | h
    · exact LinePass.rule_mem_of_mem_candidates h
    · exact LinePass.rule_mem_of_mem_candidates h
    · exact LinePass.rule_mem_of_mem_candidates h
    · exact SpanPass.rule_mem_of_mem_candidates h
  · exact LinePass.rule_mem_of_mem_candidates h
  · exact LinePass.rule_mem_of_mem_candidates h

theorem findings_inFile (ht : s.table.PathBlind) (path : String) (file : SourceFile) (classPath : String) :
    Candidate.findings (s.candidatesAs { file with path } classPath) =
      (Candidate.findings (s.candidatesAs file classPath)).map (Finding.inFile path) := by
  unfold candidatesAs
  rw [candidatesIn_inFile]
  exact Candidate.findings_seenAs (ht.blindTo path) (fun _ => rule_mem_of_mem_candidatesIn) fun _ => rfl

/-! ## Below a root -/

/-- A path below a root is classified by itself, without pieces at its end that name nothing. -/
theorem classPath_join (hp : p.IsPlain) :
    classPath (root.join p) root = ⟨Path.joinPieces (Path.trimPieces p.pieces)⟩ := by
  unfold classPath
  rw [Path.relativeTo?_join hp.lead_eq hp.text_ne_nil]
  rfl

/-- The scan of a path below a root. The kind and the path for the class are those of the path itself. -/
theorem scanPath_join (hp : p.IsPlain) :
    s.scanPath fs root (root.join p) =
      match FileKind.ofPath? p with
      | none => .error (.unsupported (root.join p))
      | some kind =>
        match fs.readText (root.join p) with
        | .error e => .error (.read (root.join p) e)
        | .ok text => .ok (Candidate.findings (s.candidatesAs ⟨(root.join p).toString, text, kind⟩
            (Path.toString ⟨Path.joinPieces (Path.trimPieces p.pieces)⟩))) := by
  unfold scanPath candidatesAt readSource
  rw [FileKind.ofPath?_join hp, classPath_join hp]
  cases FileKind.ofPath? p with
  | none => rfl
  | some kind =>
    cases fs.readText (root.join p) with
    | error e => rfl
    | ok text => rfl

/-- A file below a root has the same findings below any other root where it has the same text, told of
its whole path in each. If it cannot be scanned below the one, it cannot be below the other, for a reason
of the same kind. -/
theorem scanPath_below_roots (s : Scanner) (ht : s.table.PathBlind) (fs₁ fs₂ : FileSystem) (root₁ root₂ : Path)
    {p : Path} (hp : p.IsPlain)
    (htext : (fs₁.readText (root₁.join p)).toOption = (fs₂.readText (root₂.join p)).toOption) :
    (s.scanPath fs₁ root₁ (root₁.join p) = .error (.unsupported (root₁.join p)) ∧
      s.scanPath fs₂ root₂ (root₂.join p) = .error (.unsupported (root₂.join p))) ∨
    (∃ e₁ e₂, fs₁.readText (root₁.join p) = .error e₁ ∧ fs₂.readText (root₂.join p) = .error e₂ ∧
      s.scanPath fs₁ root₁ (root₁.join p) = .error (.read (root₁.join p) e₁) ∧
      s.scanPath fs₂ root₂ (root₂.join p) = .error (.read (root₂.join p) e₂)) ∨
    (∃ found : List Finding,
      s.scanPath fs₁ root₁ (root₁.join p) = .ok (found.map (Finding.inFile (root₁.join p).toString)) ∧
      s.scanPath fs₂ root₂ (root₂.join p) = .ok (found.map (Finding.inFile (root₂.join p).toString))) := by
  rw [scanPath_join hp, scanPath_join hp]
  cases FileKind.ofPath? p with
  | none => exact Or.inl ⟨rfl, rfl⟩
  | some kind =>
    right
    cases h₁ : fs₁.readText (root₁.join p) with
    | error e₁ =>
      cases h₂ : fs₂.readText (root₂.join p) with
      | error e₂ => exact Or.inl ⟨e₁, e₂, rfl, rfl, rfl, rfl⟩
      | ok text₂ => simp [h₁, h₂, Except.toOption] at htext
    | ok text =>
      cases h₂ : fs₂.readText (root₂.join p) with
      | error e₂ => simp [h₁, h₂, Except.toOption] at htext
      | ok text₂ =>
        obtain rfl : text = text₂ := by simpa [h₁, h₂, Except.toOption] using htext
        -- Both are the findings of the file under its path below the root.
        let file : SourceFile := ⟨p.toString, text, kind⟩
        refine Or.inr ⟨Candidate.findings (s.candidatesAs file
          (Path.toString ⟨Path.joinPieces (Path.trimPieces p.pieces)⟩)), ?_, ?_⟩
        · exact congrArg Except.ok (findings_inFile ht _ file _)
        · exact congrArg Except.ok (findings_inFile ht _ file _)

/-- A script of a server, told by a directory above the one root and by none above the other. -/
theorem scanPath_below_roots_server :
    let pattern : Pattern := ⟨"eval", .ofRegex (.text (Text.ofString "eval"))⟩
    let globs : List Glob := ["server/*", "*/server/*"].filterMap fun g => (Glob.ofString? g).toOption
    let s : Scanner := ⟨⟨[Rule.ofLine "no-eval" pattern], Exclusions.none.insert "no-eval" .serverOnly⟩,
      ⟨globs, [], []⟩⟩
    let lib : FileTree := .directory [(Text.ofString "a.js", .file "eval(x)".toUTF8)]
    let app : FileTree := .directory [(Text.ofString "lib", lib)]
    let fs : FileSystem := ⟨.directory [(Text.ofString "server", .directory [(Text.ofString "app", app)]),
      (Text.ofString "b", app)], []⟩
    let p := Path.ofString "lib//a.js"
    let root₁ := Path.ofString "server/app"
    let root₂ := Path.ofString "./b/"
    (s.table.PathBlind ∧ p.IsPlain ∧
      (fs.readText (root₁.join p)).toOption = (fs.readText (root₂.join p)).toOption) ∧
    s.scanPath fs (Path.ofString ".") (root₁.join p) = .ok [] ∧
    s.scanPath fs root₁ (root₁.join p) =
      .ok [⟨"server/app/lib//a.js", 1, 1, "no-eval", .warning, .lint, Text.ofString "eval"⟩] ∧
    s.scanPath fs root₂ (root₂.join p) =
      .ok [⟨"./b/lib//a.js", 1, 1, "no-eval", .warning, .lint, Text.ofString "eval"⟩] := by
  intro pattern globs s lib app fs p root₁ root₂
  have hblind : s.table.PathBlind := by
    intro r hr v hv
    obtain rfl : r = Rule.ofLine "no-eval" pattern := List.mem_singleton.mp hr
    cases hv
  have hplain : p.IsPlain := by
    have hcomponents : p.components = [.name (Text.ofString "lib"), .name (Text.ofString "a.js")] := by
      decide +kernel
    simp [Path.IsPlain, hcomponents]
  have htext : (fs.readText (root₁.join p)).toOption = (fs.readText (root₂.join p)).toOption := by decide +kernel
  have habove : s.scanPath fs (Path.ofString ".") (root₁.join p) = .ok [] := by decide +kernel
  have hscan : s.scanPath fs root₁ (root₁.join p) =
      .ok [⟨"server/app/lib//a.js", 1, 1, "no-eval", .warning, .lint, Text.ofString "eval"⟩] := by
    decide +kernel
  refine ⟨⟨hblind, hplain, htext⟩, habove, hscan, ?_⟩
  rcases scanPath_below_roots s hblind fs fs root₁ root₂ hplain htext with ⟨h, -⟩ | ⟨e₁, -, -, -, h, -⟩ | ⟨found, h₁, h₂⟩
  · rw [h] at hscan
    cases hscan
  · rw [h] at hscan
    cases hscan
  · rw [h₁] at hscan
    have hfound : (found.map (Finding.inFile (root₁.join p).toString)).map (Finding.inFile "./b/lib//a.js") =
        found.map (Finding.inFile (root₂.join p).toString) := by
      rw [List.map_map]
      rfl
    rw [h₂, ← hfound, Except.ok.inj hscan]
    rfl

end Scanner

end FrontLint
