import HookLint.Check.Result

/-!
The report that people read: a line for each problem, files that could not be read first, and a closing
line with the totals.
-/
namespace HookLint.Report

open HookLint.Check HookLint.Hook

inductive Shade where
  | red
  | yellow
  | green
  | dim
deriving DecidableEq, Repr

def Shade.code : Shade → String
  | red => "1;31"
  | yellow => "1;33"
  | green => "1;32"
  | dim => "2"

def paint (shaded : Bool) (s : Shade) (text : String) : String :=
  if shaded then "\x1b[" ++ s.code ++ "m" ++ text ++ "\x1b[0m" else text

inductive Label where
  | error
  | warning
deriving DecidableEq, Repr

def Label.ofSeverity : Severity → Label
  | .error => error
  | .warn => warning

def Label.text (shaded : Bool) : Label → String
  | error => paint shaded .red "error"
  | warning => paint shaded .yellow "warning"

structure Problem where
  file : Files.Path
  line : Nat
  column : Nat
  label : Label
  message : String
  rule : Option String
deriving DecidableEq, Repr

def Problem.ofFailure (f : ParseFailure) : Problem :=
  ⟨f.file, f.line, f.column, .error, "Parsing error, file not checked", none⟩

def Problem.ofFinding (f : Finding) : Problem :=
  ⟨f.file, f.line, f.column, .ofSeverity f.severity, f.message, some f.ruleId⟩

def problems (r : Result) : List Problem :=
  r.parseErrors.map Problem.ofFailure ++ r.findings.map Problem.ofFinding

def Problem.text (shaded : Bool) (p : Problem) : String :=
  let place := p.file.text ++ ":" ++ toString p.line ++ ":" ++ toString p.column
  let rule := match p.rule with
    | some name => " " ++ paint shaded .dim name
    | none => ""
  place ++ " " ++ p.label.text shaded ++ " " ++ p.message ++ rule

structure Totals where
  problems : Nat
  errors : Nat
  warnings : Nat
  files : Nat
deriving DecidableEq, Repr

def totals (r : Result) : Totals where
  problems := r.findings.length + r.parseErrors.length
  errors := r.summary.errorCount + r.summary.parseErrorCount
  warnings := r.summary.warningCount
  files := r.summary.filesWithFindings + r.summary.parseErrorCount

def closingLines (shaded : Bool) (r : Result) : List String :=
  let t := totals r
  if t.problems = 0 then
    [paint shaded .green "No problems found" ++ " (" ++ toString r.summary.totalFiles ++ " files, " ++
      toString r.summary.callsChecked ++ " calls checked)"]
  else
    ["", paint shaded .red "✖" ++ " " ++ toString t.problems ++ " problems (" ++ toString t.errors ++
      " errors, " ++ toString t.warnings ++ " warnings) in " ++ toString t.files ++ " files"]

def lines (shaded : Bool) (r : Result) : List String :=
  (problems r).map (Problem.text shaded) ++ closingLines shaded r

def ended (lines : List String) : String := String.join (lines.map (· ++ "\n"))

def text (shaded : Bool) (r : Result) : String := ended (lines shaded r)

end HookLint.Report
