import HookLint.Check.Result
import HookLint.Json.Printer

/-!
Results as JSON values. The members stand in the order of the fields.
-/
namespace HookLint.Report

open HookLint.Check HookLint.Hook

def numberValue (n : Nat) : Json.Value := .number (.natural n)

def pathValue (p : Files.Path) : Json.Value := .string p.text

def findingValue (f : Finding) : Json.Value := .object
  [("message", .string f.message), ("rule_id", .string f.ruleId), ("file", pathValue f.file),
   ("line", numberValue f.line), ("column", numberValue f.column), ("severity", .string f.severity.name)]

def failureValue (f : ParseFailure) : Json.Value := .object
  [("file", pathValue f.file), ("line", numberValue f.line), ("column", numberValue f.column)]

def summaryValue (s : Summary) : Json.Value := .object
  [("total_files", numberValue s.totalFiles), ("files_with_findings", numberValue s.filesWithFindings),
   ("calls_checked", numberValue s.callsChecked), ("error_count", numberValue s.errorCount),
   ("warning_count", numberValue s.warningCount), ("parse_error_count", numberValue s.parseErrorCount)]

def resultValue (r : Result) : Json.Value := .object
  [("findings", .array (r.findings.map findingValue)),
   ("parse_errors", .array (r.parseErrors.map failureValue)),
   ("analysis_summary", summaryValue r.summary)]

def jsonText (r : Result) : String := Json.prettyText (resultValue r)

end HookLint.Report
