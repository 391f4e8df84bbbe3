import HookLint.Check.Visitor
import HookLint.Files.Discovery
import HookLint.Language.Dialect
import HookLint.Tree.Fault

/-!
What comes of a source, and of a file.
-/
namespace HookLint.Check

open HookLint.Files HookLint.Hook HookLint.Tree

structure ParseFailure where
  file : Path
  line : Nat
  column : Nat
deriving DecidableEq, Repr, Inhabited

inductive Outcome where
  | checked (findings : List Finding) (calls : Nat) (suppressed : List Nat)
  | unparsed (failure : ParseFailure)
deriving DecidableEq, Repr

/-- Checks a tree, unless it has a syntax error. -/
def checkTree (k : Checker) (file : Path) (source : String) (root : Node) : Outcome :=
  match root.firstFault? with
  | some p => .unparsed ⟨file, p.line, p.column⟩
  | none =>
    let v := (Visitor.start file source).visitTree k source.toUTF8 root
    .checked v.findings v.calls v.suppressed

/-- Checks a source in the language of its file. Also the reader as it is left. -/
def checkSource (k : Checker) (r : SourceReader) (file : Path) (source : String) :
    Option Outcome × SourceReader :=
  let r := r.switch (Language.ofPath file)
  ((r.tree? source).map (checkTree k file source), r)

/-- Checks sources one after another with one reader. -/
def checkSources (k : Checker) (r : SourceReader) : List (Path × String) → List Outcome
  | [] => []
  | (file, source) :: rest =>
    match checkSource k r file source with
    | (some o, r) => o :: checkSources k r rest
    | (none, r) => checkSources k r rest

inductive FileReport where
  | unreadable (file : Path) (reason : FileError)
  | read (file : Path) (outcome : Outcome)
deriving DecidableEq, Repr

def checkFile (k : Checker) (d : Disk) (r : SourceReader) (file : Path) : Option FileReport × SourceReader :=
  match d.readText file with
  | .error e => (some (.unreadable file e), r)
  | .ok source =>
    match checkSource k r file source with
    | (o, r) => (o.map (.read file), r)

def checkFiles (k : Checker) (d : Disk) (r : SourceReader) : List Path → List FileReport
  | [] => []
  | file :: rest =>
    match checkFile k d r file with
    | (some report, r) => report :: checkFiles k d r rest
    | (none, r) => checkFiles k d r rest

def FileReport.outcome? : FileReport → Option Outcome
  | unreadable _ _ => none
  | read _ o => some o

end HookLint.Check
