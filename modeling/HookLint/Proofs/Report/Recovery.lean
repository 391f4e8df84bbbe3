import HookLint.Command.Run
import HookLint.Proofs.Json.Fields

/-! A result that was printed as JSON can be had back from the text: the text is accepted by the reader of
configurations, and what is read holds every field of the result under its key, and nothing else. -/
namespace HookLint.Report

open HookLint.Check HookLint.Command HookLint.Hook

/-! ### Results from values

The values are taken apart strictly: a field that is missing, a field that is not known and a field of another
kind are all refused. -/

def findingKeys : List String := ["message", "rule_id", "file", "line", "column", "severity"]

def failureKeys : List String := ["file", "line", "column"]

def summaryKeys : List String :=
  ["total_files", "files_with_findings", "calls_checked", "error_count", "warning_count", "parse_error_count"]

def resultKeys : List String := ["findings", "parse_errors", "analysis_summary"]

def severityOf? (name : String) : Option Severity :=
  if name = Severity.error.name then some .error
  else if name = Severity.warn.name then some .warn
  else none

def findingOf? (v : Json.Value) : Option Finding :=
  match v.fields? findingKeys with
  | some [.string message, .string ruleId, .string file, .number (.natural line), .number (.natural column),
      .string severity] =>
    (severityOf? severity).map fun s => ⟨message, ruleId, ⟨file⟩, line, column, s⟩
  | _ => none

def failureOf? (v : Json.Value) : Option ParseFailure :=
  match v.fields? failureKeys with
  | some [.string file, .number (.natural line), .number (.natural column)] => some ⟨⟨file⟩, line, column⟩
  | _ => none

def summaryOf? (v : Json.Value) : Option Summary :=
  match v.fields? summaryKeys with
  | some [.number (.natural files), .number (.natural filesWithFindings), .number (.natural calls),
      .number (.natural errors), .number (.natural warnings), .number (.natural parseErrors)] =>
    some ⟨files, filesWithFindings, calls, errors, warnings, parseErrors⟩
  | _ => none

def resultOf? (v : Json.Value) : Option Result :=
  match v.fields? resultKeys with
  | some [.array findings, .array failures, summary] => do
    let findings ← findings.mapM findingOf?
    let failures ← failures.mapM failureOf?
    let summary ← summaryOf? summary
    return ⟨findings, failures, summary⟩
  | _ => none

theorem severityOf?_name (s : Severity) : severityOf? s.name = some s := by cases s <;> decide

theorem findingOf?_filed (f : Finding) : findingOf? (findingValue f).filed = some f := by
  have fields : (findingValue f).filed.fields? findingKeys =
      some [.string f.message, .string f.ruleId, pathValue f.file, numberValue f.line, numberValue f.column,
        .string f.severity.name] := Json.fields?_filed rfl (by decide)
  rw [findingOf?, fields]
  simp only [pathValue, numberValue, severityOf?_name, Option.map_some]

theorem failureOf?_filed (f : ParseFailure) : failureOf? (failureValue f).filed = some f := by
  have fields : (failureValue f).filed.fields? failureKeys =
      some [pathValue f.file, numberValue f.line, numberValue f.column] := Json.fields?_filed rfl (by decide)
  rw [failureOf?, fields]
  rfl

theorem summaryOf?_filed (s : Summary) : summaryOf? (summaryValue s).filed = some s := by
  have fields : (summaryValue s).filed.fields? summaryKeys =
      some [numberValue s.totalFiles, numberValue s.filesWithFindings, numberValue s.callsChecked,
        numberValue s.errorCount, numberValue s.warningCount, numberValue s.parseErrorCount] :=
    Json.fields?_filed rfl (by decide)
  rw [summaryOf?, fields]
  rfl

theorem resultOf?_filed (r : Result) : resultOf? (resultValue r).filed = some r := by
  have fields : (resultValue r).filed.fields? resultKeys =
      some [.array (Json.filedItems (r.findings.map findingValue)),
        .array (Json.filedItems (r.parseErrors.map failureValue)), (summaryValue r.summary).filed] :=
    Json.fields?_filed rfl (by decide)
  have findings := Json.mapM_filedItems findingOf?_filed r.findings
  have failures := Json.mapM_filedItems failureOf?_filed r.parseErrors
  rw [resultOf?, fields]
  simp only [findings, failures, summaryOf?_filed]
  rfl

/-! ### Results that fit -/

/-- All numbers of a result. -/
def counters (r : Result) : List Nat :=
  r.findings.flatMap (fun f => [f.line, f.column]) ++ r.parseErrors.flatMap (fun f => [f.line, f.column]) ++
    [r.summary.totalFiles, r.summary.filesWithFindings, r.summary.callsChecked, r.summary.errorCount,
      r.summary.warningCount, r.summary.parseErrorCount]

/-- The numbers of a result are held in 64 bits. -/
def Fits (r : Result) : Prop := ∀ n ∈ counters r, n < 2 ^ 64

section Within

variable {levels : Nat}

theorem within_number {n : Nat} (fits : n < 2 ^ 64) : (numberValue n).Within levels :=
  .number (by simpa [Json.Number.Whole, Json.significandLimit] using fits)

theorem within_finding {f : Finding} (line : f.line < 2 ^ 64) (column : f.column < 2 ^ 64) :
    (findingValue f).Within (levels + 1) := by
  refine .object ?_
  simp only [List.forall_mem_cons]
  exact ⟨.string _, .string _, .string _, within_number line, within_number column, .string _,
    List.forall_mem_nil _⟩

theorem within_failure {f : ParseFailure} (line : f.line < 2 ^ 64) (column : f.column < 2 ^ 64) :
    (failureValue f).Within (levels + 1) := by
  refine .object ?_
  simp only [List.forall_mem_cons]
  exact ⟨.string _, within_number line, within_number column, List.forall_mem_nil _⟩

theorem Fits.within {r : Result} (fits : Fits r) : (resultValue r).Within (levels + 3) := by
  simp only [Fits, counters, List.forall_mem_append, List.forall_mem_flatMap, List.forall_mem_cons] at fits
  obtain ⟨⟨findings, failures⟩, files, filesWithFindings, calls, errors, warnings, parseErrors, -⟩ := fits
  have findingsWithin : (Json.Value.array (r.findings.map findingValue)).Within (levels + 2) := by
    refine .array (List.forall_mem_map.mpr ?_)
    intro f member
    obtain ⟨line, column, -⟩ := findings f member
    exact within_finding line column
  have failuresWithin : (Json.Value.array (r.parseErrors.map failureValue)).Within (levels + 2) := by
    refine .array (List.forall_mem_map.mpr ?_)
    intro f member
    obtain ⟨line, column, -⟩ := failures f member
    exact within_failure line column
  have summaryWithin : (summaryValue r.summary).Within (levels + 2) := by
    refine .object ?_
    simp only [List.forall_mem_cons]
    exact ⟨within_number files, within_number filesWithFindings, within_number calls, within_number errors,
      within_number warnings, within_number parseErrors, List.forall_mem_nil _⟩
  refine .object ?_
  simp only [List.forall_mem_cons]
  exact ⟨findingsWithin, failuresWithin, summaryWithin, List.forall_mem_nil _⟩

end Within

/-! ### What is printed -/

theorem read_ended_jsonText {r : Result} (fits : Fits r) :
    Json.read (ended [jsonText r]) = .ok (resultValue r).filed := by
  have chars : (ended [jsonText r]).toList = (resultValue r).pretty 0 ++ ['\n'] := by
    simp [ended, jsonText, Json.prettyText, String.join]
  have feed : ∀ c ∈ ['\n'], Json.isBlank c := List.forall_mem_singleton.mpr (by decide)
  rw [Json.read, chars]
  exact Json.read_prettyText fits.within feed

/-- The output as JSON loses nothing. The reader of configurations accepts it, and what it reads has the keys
of a result, and below them the keys of findings, failures and a summary, these and no others, with the values
that give the result back, lists in their order. So results that differ are not printed as one text. -/
theorem json_output_recovers {o : Options} (json : o.json) (shaded : Bool) {r : Result} (fits : Fits r) :
    (∃ v, Json.read (rendered shaded o r) = .ok v ∧ resultOf? v = some r) ∧
      ∀ {o' : Options} (shaded' : Bool) {r' : Result}, o'.json → Fits r' →
        rendered shaded' o' r' = rendered shaded o r → r' = r := by
  have reads : ∀ {o : Options} (shaded : Bool) {r : Result}, o.json → Fits r →
      Json.read (rendered shaded o r) = .ok (resultValue r).filed := by
    intro o shaded r json fits
    rw [rendered, if_pos json]
    exact read_ended_jsonText fits
  refine ⟨⟨_, reads shaded json fits, resultOf?_filed r⟩, ?_⟩
  intro o' shaded' r' json' fits' same
  have values : (resultValue r').filed = (resultValue r).filed := by
    have read := reads shaded' json' fits'
    rw [same, reads shaded json fits] at read
    exact (Except.ok.inj read).symm
  have results : some r' = some r := by
    rw [← resultOf?_filed r', values, resultOf?_filed r]
  exact Option.some.inj results

/-- A result with the greatest numbers, a list that is empty, and texts that need escapes or bytes beyond
ASCII. -/
def motleyResult (message : String) : Result where
  findings := [
    ⟨message, "named-functions-in-hooks", ⟨"a \"b\"\\c.js"⟩, 2 ^ 64 - 1, 1, .error⟩,
    ⟨"", "", ⟨"ü/名.tsx"⟩, 1, 2 ^ 64 - 1, .warn⟩]
  parseErrors := []
  summary := ⟨2, 2, 0, 1, 1, 0⟩

theorem json_output_motley :
    let message := "\"quoted\" \\ \n\t\x00\x1f\x7f é 🎣"
    let spelled := "\"quoted\" \\ \\n\\t\\u0000\x1f\x7f é 🎣"
    (∃ v, Json.read (rendered true { json := true } (motleyResult message)) = .ok v ∧
      resultOf? v = some (motleyResult message)) ∧
      rendered false { json := true } (motleyResult spelled) ≠
        rendered true { json := true } (motleyResult message) := by
  intro message spelled
  have fits : ∀ text, Fits (motleyResult text) := by simp [Fits, counters, motleyResult]
  have other : motleyResult spelled ≠ motleyResult message := by decide
  have recovers := json_output_recovers (o := { json := true }) rfl true (fits message)
  exact ⟨recovers.1, fun same => other (recovers.2 false rfl (fits spelled) same)⟩

end HookLint.Report
