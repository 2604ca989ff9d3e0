/-
  FrontLint.Proofs.Report.Records — a report written as records, one a line.

  No record holds a newline, so the lines of the whole are its records, and each record is read in one way
  only (`JsonValue.compact_injective`). The last one counts the findings and the skipped files, which
  tells the records of the two kinds apart. Proved:
  - `ndjson_eq`: the records, each with a newline behind it.
  - `lines_flatMap`: lines that were written one by one are read back.
  - `findingFields_injective`: a finding can be read off its record, whether it has a suggestion or not.
  - `records_injective`: and so can a report.
  - `ndjson_framed`: the whole.
-/

import FrontLint.Proofs.Json.Compact
import FrontLint.Proofs.Text.Place
import FrontLint.Report.Structured

namespace FrontLint

/-- Lines without newlines, each written with one behind it, are read back. -/
theorem Text.lines_flatMap {ls : List Text} (h : ∀ l ∈ ls, '\n' ∉ l) :
    Text.lines (ls.flatMap (· ++ ['\n'])) = ls ++ [[]] := by
  induction ls with
  | nil => rfl
  | cons l ls ih =>
    have hrest : Text.lines (ls.flatMap (· ++ ['\n'])) = ls ++ [[]] :=
      ih fun k hk => h k (List.mem_cons_of_mem l hk)
    have hnext := lines_cons_newline (ls.flatMap (· ++ ['\n']))
    have hline := lines_append_of_not_mem (h l List.mem_cons_self) hnext
    rw [List.append_nil, hrest] at hline
    rw [List.flatMap_cons, List.append_assoc, List.singleton_append, hline, List.cons_append]

theorem Severity.name_injective {a b : Severity} (h : a.name = b.name) : a = b := by
  revert h
  cases a <;> cases b <;> decide

theorem Category.name_injective {a b : Category} (h : a.name = b.name) : a = b := by
  revert h
  cases a <;> cases b <;> decide

namespace Report

variable {t : RuleTable} {i : RunInfo}

/-- A record of a stated type. -/
def record (type : String) (fields : Fields) : JsonValue := .object (("type", .ofString type) :: fields)

/-- The records of a report, in the order in which they are written. -/
def records (t : RuleTable) (i : RunInfo) (r : Report) : List JsonValue :=
  record "metadata" (infoFields i) ::
    (r.findings.map (fun f => record "finding" (findingFields t f)) ++
      r.skipped.map (fun s => record "skipped" (skippedFields s)) ++ [record "summary" r.summaryFields])

theorem length_records (t : RuleTable) (i : RunInfo) (r : Report) :
    (r.records t i).length = 2 + r.findings.length + r.skipped.length := by
  simp only [records, List.length_cons, List.length_append, List.length_map, List.length_nil]
  omega

theorem recordLine_eq (type : String) (fields : Fields) :
    recordLine type fields = (record type fields).compact ++ ['\n'] := rfl

theorem ndjson_eq (t : RuleTable) (i : RunInfo) (r : Report) :
    r.ndjson t i = ((r.records t i).map JsonValue.compact).flatMap (· ++ ['\n']) := by
  simp only [ndjson, records, recordLine_eq, List.map_cons, List.map_append, List.map_map, List.flatMap_cons,
    List.flatMap_append, List.flatMap_map, Function.comp_apply, List.map_nil, List.flatMap_nil, List.append_nil,
    List.append_assoc]

theorem record_inj {type : String} {fields fields' : Fields} (h : record type fields = record type fields') :
    fields = fields' := by
  simp only [record, JsonValue.object.injEq, List.cons.injEq, true_and] at h
  exact h

theorem findingFields_injective {f g : Finding} (h : findingFields t f = findingFields t g) : f = g := by
  simp only [findingFields, List.cons_append, List.nil_append, List.cons.injEq, Prod.mk.injEq, true_and, and_true,
    JsonValue.ofString, JsonValue.string.injEq, JsonValue.object.injEq, JsonValue.number.injEq,
    String.toList_inj] at h
  obtain ⟨hrule, hcategory, hseverity, ⟨hfile, hline, hcolumn⟩, hmatched, -⟩ := h
  have hcategory' := Category.name_injective hcategory
  have hseverity' := Severity.name_injective hseverity
  cases f
  cases g
  simp only at hrule hfile hline hcolumn hmatched hcategory' hseverity'
  rw [hrule, hfile, hline, hcolumn, hmatched, hcategory', hseverity']

theorem skippedFields_injective {a b : SkippedFile} (h : skippedFields a = skippedFields b) : a = b := by
  simp only [skippedFields, List.cons.injEq, Prod.mk.injEq, true_and, and_true, JsonValue.ofString,
    JsonValue.string.injEq, String.toList_inj] at h
  cases a
  cases b
  simp only at h
  rw [h.1, h.2]

/-- A report can be read off its records. -/
theorem records_injective {r r' : Report} (h : r.records t i = r'.records t i) :
    r.findings = r'.findings ∧ r.skipped = r'.skipped ∧ r.filesScanned = r'.filesScanned := by
  obtain ⟨hbody, hlast⟩ := List.append_inj' (List.cons.inj h).2 rfl
  have hsummary : r.summaryFields = r'.summaryFields := record_inj (List.cons.inj hlast).1
  simp only [summaryFields, List.cons.injEq, Prod.mk.injEq, true_and, JsonValue.number.injEq] at hsummary
  obtain ⟨hscanned, -, -, htotal, -⟩ := hsummary
  -- As many records as there are findings come first.
  obtain ⟨hfindings, hskipped⟩ := List.append_inj hbody (by simp [htotal])
  refine ⟨?_, ?_, hscanned⟩
  · exact List.map_injective_iff.mpr (fun f g hfg => findingFields_injective (record_inj hfg)) hfindings
  · exact List.map_injective_iff.mpr (fun a b hab => skippedFields_injective (record_inj hab)) hskipped

/-- A report is written as one line for the run, one for each finding and each skipped file, and one for
the summary. Each ends in a newline and holds none. Two reports that are written alike have the same
findings, the same skipped files and as many files scanned. -/
theorem ndjson_framed (t : RuleTable) (i : RunInfo) (r : Report) :
    (∃ ls : List Text, r.ndjson t i = ls.flatMap (· ++ ['\n']) ∧
      ls.length = 2 + r.findings.length + r.skipped.length ∧ ∀ l ∈ ls, '\n' ∉ l) ∧
    ∀ r' : Report, r'.ndjson t i = r.ndjson t i ↔
      r'.findings = r.findings ∧ r'.skipped = r.skipped ∧ r'.filesScanned = r.filesScanned := by
  have hlines : ∀ q : Report, ∀ l ∈ (q.records t i).map JsonValue.compact, '\n' ∉ l := by
    intro q l hl
    obtain ⟨v, -, rfl⟩ := List.mem_map.mp hl
    exact v.newline_not_mem_compact
  refine ⟨⟨(r.records t i).map JsonValue.compact, ndjson_eq t i r, ?_, hlines r⟩, fun r' => ⟨fun h => ?_, ?_⟩⟩
  · rw [List.length_map, length_records]
  · have hread := congrArg Text.lines h
    rw [ndjson_eq, ndjson_eq, Text.lines_flatMap (hlines r'), Text.lines_flatMap (hlines r)] at hread
    have hrecords := List.append_cancel_right hread
    exact records_injective (List.map_injective_iff.mpr (fun v w => JsonValue.compact_injective) hrecords)
  · rintro ⟨hfindings, hskipped, hscanned⟩
    cases r
    cases r'
    simp only at hfindings hskipped hscanned
    rw [hfindings, hskipped, hscanned]

end Report

end FrontLint
