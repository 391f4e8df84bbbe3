import HookLint.Check.Outcome

/-!
The result of a run: the outcomes of all files gathered, sorted and counted. It does not depend on the
order in which the outcomes come.

What a run does with the trees of its texts does not hang on where the trees come from, so a run can also
be made with any other way to make them.
-/
namespace HookLint.Check

open HookLint.Files HookLint.Hook

structure Summary where
  totalFiles : Nat
  filesWithFindings : Nat
  callsChecked : Nat
  errorCount : Nat
  warningCount : Nat
  parseErrorCount : Nat
deriving DecidableEq, Repr, Inhabited

structure Result where
  findings : List Finding
  parseErrors : List ParseFailure
  summary : Summary
deriving DecidableEq, Repr, Inhabited

namespace Outcome

def findings : Outcome → List Finding
  | checked fs _ _ => fs
  | unparsed _ => []

def failures : Outcome → List ParseFailure
  | checked _ _ _ => []
  | unparsed f => [f]

def calls : Outcome → Nat
  | checked _ n _ => n
  | unparsed _ => 0

end Outcome

/-- Findings are ordered by file, line and column. -/
def findingNotAfter (a b : Finding) : Bool :=
  if a.file.key = b.file.key then
    if a.line = b.line then decide (a.column ≤ b.column) else decide (a.line < b.line)
  else decide (a.file.key < b.file.key)

def failureNotAfter (a b : ParseFailure) : Bool := a.file.notAfter b.file

def countOf (s : Severity) (findings : List Finding) : Nat := findings.countP fun f => f.severity == s

def totalCalls : List Outcome → Nat
  | [] => 0
  | o :: os => o.calls + totalCalls os

/-- The result of outcomes, of a number of files that may be larger. -/
def gather (totalFiles : Nat) (outcomes : List Outcome) : Result :=
  let findings := (outcomes.flatMap Outcome.findings).mergeSort findingNotAfter
  let parseErrors := (outcomes.flatMap Outcome.failures).mergeSort failureNotAfter
  { findings, parseErrors
    summary :=
      { totalFiles
        filesWithFindings := outcomes.countP fun o => !o.findings.isEmpty
        callsChecked := totalCalls outcomes
        errorCount := countOf .error findings
        warningCount := countOf .warn findings
        parseErrorCount := parseErrors.length } }

structure Survey where
  files : List Path
  reports : List FileReport

def survey (k : Checker) (d : Disk) (p : Path) : Except AccessError Survey :=
  (d.discover p).map fun files => ⟨files, checkFiles k d .fresh files⟩

def Survey.result (s : Survey) : Result := gather s.files.length (s.reports.filterMap FileReport.outcome?)

def analyze (k : Checker) (d : Disk) (p : Path) : Except AccessError Result :=
  (survey k d p).map Survey.result

/-- A way to make a tree of a text. -/
abbrev Parse := Language → String → Tree.Node

def Parse.reader : Parse := fun l source => Reader.readTree l.dialect source.toList

/-- What is reported of a file by its text, if it has one. -/
def reportBy (parse : Parse) (k : Checker) (file : Path) : Except FileError String → FileReport
  | .error e => .unreadable file e
  | .ok source => .read file (checkTree k file source (parse (Language.ofPath file) source))

def outcomesBy (parse : Parse) (k : Checker) (file : Path) (text : Except FileError String) : List Outcome :=
  (reportBy parse k file text).outcome?.toList

def surveyBy (parse : Parse) (k : Checker) (d : Disk) (p : Path) : Except AccessError Survey :=
  (d.discover p).map fun files => ⟨files, files.map fun f => reportBy parse k f (d.readText f)⟩

/-- A run in which texts become trees in a given way. -/
def analyzeBy (parse : Parse) (k : Checker) (d : Disk) (p : Path) : Except AccessError Result :=
  (surveyBy parse k d p).map Survey.result

/-- The files that a result names. -/
def Result.paths (r : Result) : List Path := r.findings.map Finding.file ++ r.parseErrors.map ParseFailure.file

def Result.isClean (r : Result) : Bool := r.summary.errorCount == 0 && r.summary.parseErrorCount == 0

end HookLint.Check
