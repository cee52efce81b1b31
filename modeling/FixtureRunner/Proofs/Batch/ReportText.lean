/-
The text of a report.

A report is written on one line.  What a reader finds under the keys of the line is the report,
together with its counts, so no two reports have the same text.
-/

import FixtureRunner.Batch.Report
import FixtureRunner.Proofs.Json.RoundTrip

namespace FixtureRunner

/-! ### Looking into a document -/

namespace Json

def get? (json : Json) (key : String) : Option Json :=
  match json with
  | .object members => members.lookup key
  | _ => none

def textAt? (json : Json) (key : String) : Option String :=
  match json.get? key with
  | some (.string text) => some text
  | _ => none

def countAt? (json : Json) (key : String) : Option Nat :=
  match json.get? key with
  | some (.number value) => some value
  | _ => none

def itemsAt? (json : Json) (key : String) : Option (List Json) :=
  match json.get? key with
  | some (.array items) => some items
  | _ => none

end Json

def Record.ofJson? (json : Json) : Option Record := do
  let name ← json.textAt? "path"
  let outcome ← (json.textAt? "outcome").bind Outcome.ofName?
  return { name, outcome }

def Summary.ofJson? (json : Json) : Option Summary := do
  let total ← json.countAt? "total"
  let passed ← json.countAt? "passed"
  let failed ← json.countAt? "failed"
  let ok ← json.countAt? "ok"
  let updated ← json.countAt? "updated"
  let compileErrors ← json.countAt? "compile_errors"
  let diffMismatches ← json.countAt? "diff_mismatches"
  let malformed ← json.countAt? "malformed"
  return { total, passed, failed, ok, updated, compileErrors, diffMismatches, malformed }

namespace Report

/-- The report and the counts that a document tells. -/
def ofJson? (json : Json) : Option (Report × Summary) := do
  let mode ← (json.textAt? "mode").bind RunMode.ofName?
  let summary ← (json.get? "summary").bind Summary.ofJson?
  let cleaned ← json.countAt? "cleaned"
  let records ← (← json.itemsAt? "fixtures").mapM Record.ofJson?
  return ({ mode, records, cleaned }, summary)

/-- The counts of a report fit into 64 bits. -/
structure IsCounted (report : Report) : Prop where
  records : report.records.length ≤ Json.greatestNatural
  cleaned : report.cleaned ≤ Json.greatestNatural

end Report

/-! ### Names -/

theorem RunMode.ofName?_name (mode : RunMode) : RunMode.ofName? mode.name = some mode := by
  cases mode <;> decide

theorem Outcome.ofName?_name (outcome : Outcome) : Outcome.ofName? outcome.name = some outcome := by
  cases outcome <;> decide

/-! ### Counts -/

namespace Report

/-- Every record is counted under exactly one outcome. -/
theorem count_all (report : Report) :
    report.count .ok + report.count .updated + report.count .compileError +
      report.count .diffMismatch + report.count .malformed = report.records.length := by
  obtain ⟨mode, records, cleaned⟩ := report
  simp only [count]
  induction records with
  | nil => rfl
  | cons record rest ih =>
      obtain ⟨name, outcome⟩ := record
      cases outcome <;> simp <;> omega

open Json (Fits)

theorem fits_texts {depth : Nat} (firstKey first secondKey second : String) :
    Fits (depth + 2) (.object [(firstKey, .string first), (secondKey, .string second)]) := by
  refine Fits.object ?_
  simp only [List.forall_mem_cons]
  exact ⟨.string _, .string _, List.forall_mem_nil _⟩

variable {report : Report}

theorem fits_summaryJson (isCounted : report.IsCounted) {depth : Nat} :
    Fits (depth + 2) (summaryJson report.summary) := by
  have isSum := report.count_all
  have isSmall := isCounted.records
  refine Fits.object ?_
  simp only [List.mem_cons, List.not_mem_nil, or_false, forall_eq_or_imp, forall_eq, summary]
  refine ⟨?_, ?_, ?_, ?_, ?_, ?_, ?_, ?_⟩ <;> exact Fits.number (by omega)

theorem fits_json (isCounted : report.IsCounted) : Fits 128 report.json := by
  refine Fits.object ?_
  simp only [List.mem_cons, List.not_mem_nil, or_false, forall_eq_or_imp, forall_eq]
  refine ⟨.string _, fits_texts _ _ _ _, .string _, fits_summaryJson isCounted,
    .number isCounted.cleaned, .array ?_⟩
  exact List.forall_mem_map.mpr fun record _ => fits_texts _ _ _ _

/-! ### Reading a report -/

theorem ofJson?_recordJson (record : Record) : Record.ofJson? (recordJson record) = some record := by
  simp [Record.ofJson?, recordJson, Json.textAt?, Json.get?, List.lookup_cons, Outcome.ofName?_name]

theorem mapM_ofJson? (records : List Record) :
    records.mapM (Record.ofJson? ∘ recordJson) = some records := by
  induction records with
  | nil => rfl
  | cons record rest ih =>
      rw [List.mapM_cons, Function.comp_apply, ofJson?_recordJson, ih]
      rfl

theorem ofJson?_json (report : Report) : ofJson? report.json = some (report, report.summary) := by
  have isSummary : Summary.ofJson? (summaryJson report.summary) = some report.summary := by
    simp [Summary.ofJson?, summaryJson, Json.countAt?, Json.get?, List.lookup_cons]
  simp [ofJson?, json, Json.textAt?, Json.countAt?, Json.itemsAt?, Json.get?, List.lookup_cons,
    RunMode.ofName?_name, isSummary, mapM_ofJson?]

theorem parse_document (isCounted : report.IsCounted) :
    Json.parse (Text.encode report.document) = .ok report.json := by
  rw [document, Json.encode_append]
  exact Json.parse_renders (Json.renders_render _) (fits_json isCounted) Json.Blank.none
    ⟨Text.encode ['\n'], List.all_iff_forall_prop.mp (by decide)⟩

/-- The report is one line of JSON from which it is read back with its counts; so different
reports have different texts. -/
theorem document_lossless (report : Report) (isCounted : report.IsCounted) :
    (∃ line, report.document = line ++ ['\n'] ∧ '\n' ∉ line ∧
      Json.Renders report.json (Text.encode line)) ∧
    (∃ json, Json.parse (Text.encode report.document) = .ok json ∧
      ofJson? json = some (report, report.summary)) ∧
    ∀ other : Report, other.IsCounted → other.document = report.document → other = report := by
  have isParsed := parse_document isCounted
  refine ⟨⟨report.json.render, rfl, Json.newline_notMem_render _, Json.renders_render _⟩,
    ⟨report.json, isParsed, ofJson?_json report⟩, fun other isOther isSame => ?_⟩
  have isAlso := parse_document isOther
  rw [isSame, isParsed] at isAlso
  have isRead := ofJson?_json report
  rw [Except.ok.inj isAlso, ofJson?_json other] at isRead
  exact congrArg Prod.fst (Option.some.inj isRead)

/-- Names with quotes, backslashes, control characters and characters beyond 16 bits survive. -/
theorem document_lossless_strange_names :
    ∃ json, Json.parse (Text.encode (Report.document
      ⟨.update, [⟨"\"a\\b\"\n\t\x01.tst", .updated⟩, ⟨"😀\x7f", .malformed⟩], 7⟩)) = .ok json ∧
    ofJson? json = some (⟨.update, [⟨"\"a\\b\"\n\t\x01.tst", .updated⟩, ⟨"😀\x7f", .malformed⟩], 7⟩,
      ⟨2, 1, 1, 0, 1, 0, 0, 1⟩) :=
  (document_lossless _ ⟨by decide, by decide⟩).2.1

end Report
end FixtureRunner
