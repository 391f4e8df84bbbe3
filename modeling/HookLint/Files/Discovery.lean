import HookLint.Files.Disk
import HookLint.Language.OfPath

/-!
The source files below a path, in the order of their paths.
-/
namespace HookLint.Files

def skippedNames : List String := ["node_modules", "dist", "build", "coverage", "target"]

/-- Hidden directories, and those of dependencies and build results, are not entered. -/
def isSkipped (name : String) : Bool := name.toList.head? == some '.' || skippedNames.contains name

mutual

/-- The source files of an entry of a directory. Links are passed over. -/
def sourcesAt (directory : Path) (name : String) : Entry → List Path
  | .file _ => if (Language.ofPath? (directory.join name)).isSome then [directory.join name] else []
  | .directory inner => if isSkipped name then [] else sourcesIn (directory.join name) inner
  | .link _ => []

/-- The source files among the entries of a directory and below. -/
def sourcesIn (directory : Path) : List (String × Entry) → List Path
  | [] => []
  | (name, e) :: es => sourcesAt directory name e ++ sourcesIn directory es

end

def sortPaths (ps : List Path) : List Path := ps.mergeSort Path.notAfter

structure AccessError where
  path : Path
  reason : FileError
deriving DecidableEq, Repr

def AccessError.summary (e : AccessError) : String := "cannot access " ++ e.path.text

def AccessError.message (e : AccessError) : String := e.summary ++ ": " ++ e.reason.message

/-- A file is taken whatever its name, a directory is searched. -/
def Disk.discover (d : Disk) (p : Path) : Except AccessError (List Path) :=
  match d.entry p with
  | .error e => .error ⟨p, e⟩
  | .ok (.directory es) => .ok (sortPaths (sourcesIn p es))
  | .ok _ => .ok [p]

end HookLint.Files
