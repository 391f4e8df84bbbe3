import HookLint.Check.Result
import HookLint.Json.Printer
import HookLint.Text.Letter

/-!
What a run notes on its way. A note has a level; only notes at the threshold or above are kept.
-/
namespace HookLint.Report

open HookLint.Check HookLint.Text

inductive Level where
  | trace
  | debug
  | info
  | warn
  | error
deriving DecidableEq, Repr

namespace Level

def weight : Level → Nat
  | trace => 1
  | debug => 2
  | info => 3
  | warn => 4
  | error => 5

def name : Level → String
  | trace => "TRACE"
  | debug => "DEBUG"
  | info => "INFO"
  | warn => "WARN"
  | error => "ERROR"

end Level

/-- The least level that is kept; none keeps nothing. -/
abbrev Threshold := Option Level

/-- A threshold by its name or its number, from 0 for nothing to 5 for everything. -/
def Threshold.parse? (text : String) : Option Threshold :=
  match String.ofList (text.toList.map Char.toLower) with
  | "off" | "0" => some none
  | "error" | "1" => some (some .error)
  | "warn" | "2" => some (some .warn)
  | "info" | "3" => some (some .info)
  | "debug" | "4" => some (some .debug)
  | "trace" | "5" => some (some .trace)
  | _ => none

def Threshold.keeps (t : Threshold) (l : Level) : Bool :=
  match t with
  | none => false
  | some least => decide (least.weight ≤ l.weight)

structure Note where
  level : Level
  message : String
  fields : List (String × String)
deriving DecidableEq, Repr

def Note.text (n : Note) : String :=
  n.level.name ++ " " ++ n.message ++ String.join (n.fields.map fun f => " " ++ f.1 ++ "=" ++ f.2)

/-- A character of a quoted name; one that would join the character before it is given by its number. -/
def nameChar (c : Char) : List Char :=
  if Letter.isExtending c then
    ['\\', 'u', '\x7b'] ++ Nat.toDigits 16 c.toNat ++ ['\x7d']
  else [c]

def quotedName (name : String) : String :=
  "\"" ++ String.ofList (name.toList.flatMap nameChar) ++ "\""

def quotedNames (names : List String) : String :=
  "[" ++ ", ".intercalate (names.map quotedName) ++ "]"

def loadingNote (file : Files.Path) : Note := ⟨.debug, "loading config", [("path", file.text)]⟩

def trackedNote (hooks : List String) : Note := ⟨.debug, "tracked hooks", [("hooks", quotedNames hooks)]⟩

def surveyNote (files : Nat) (p : Files.Path) : Note :=
  ⟨.info, "analyzing", [("files", toString files), ("path", p.text)]⟩

def suppressedNote (line : Nat) : Note :=
  ⟨.trace, "finding suppressed by pragma", [("line", toString line)]⟩

def fileNotes : FileReport → List Note
  | .unreadable file reason =>
    [⟨.warn, "skipping unreadable file", [("file", file.text), ("error", reason.message)]⟩]
  | .read _ (.unparsed f) =>
    [⟨.warn, "syntax error, file not checked",
      [("file", f.file.text), ("line", toString f.line), ("column", toString f.column)]⟩]
  | .read file (.checked findings calls suppressed) =>
    suppressed.map suppressedNote ++
      [⟨.debug, "checked",
        [("file", file.text), ("calls", toString calls), ("findings", toString findings.length)]⟩]

def surveyNotes (p : Files.Path) (s : Survey) : List Note :=
  surveyNote s.files.length p :: s.reports.flatMap fileNotes

end HookLint.Report
