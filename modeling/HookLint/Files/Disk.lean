import HookLint.Files.Path

/-!
A finite tree of files, directories and symbolic links, and how a path is looked up in it.
-/
namespace HookLint.Files

open HookLint.Text

inductive Entry where
  | file (content : ByteArray)
  | directory (entries : List (String × Entry))
  | link (target : String)

instance : Inhabited Entry := ⟨.directory []⟩

abbrev Entries := List (String × Entry)

inductive FileError where
  | notFound
  | notADirectory
  | isADirectory
  | tooManyLinks
  | notText
deriving DecidableEq, Repr

def FileError.message : FileError → String
  | notFound => "No such file or directory (os error 2)"
  | notADirectory => "Not a directory (os error 20)"
  | isADirectory => "Is a directory (os error 21)"
  | tooManyLinks => "Too many levels of symbolic links (os error 40)"
  | notText => "stream did not contain valid UTF-8"

namespace Entries

def find? (name : String) : Entries → Option Entry
  | [] => none
  | (n, e) :: es => if n = name then some e else find? name es

/-- Puts an entry under a name, in the place of one that was there. -/
def set (name : String) (entry : Entry) : Entries → Entries
  | [] => [(name, entry)]
  | (n, e) :: es => if n = name then (name, entry) :: es else (n, e) :: set name entry es

end Entries

namespace Entry

def at? : List String → Entry → Option Entry
  | [], e => some e
  | n :: ns, .directory es => (Entries.find? n es).bind (at? ns)
  | _ :: _, _ => none

/-- Puts an entry at a chain of names, with the directories that lead there. A directory that is there
already is kept; nothing is put below a file or a link. -/
def put (entry : Entry) : List String → Entry → Entry
  | [], old =>
    match entry, old with
    | .directory [], .directory es => .directory es
    | new, _ => new
  | n :: ns, .directory es =>
    .directory (Entries.set n (put entry ns ((Entries.find? n es).getD (.directory []))) es)
  | _ :: _, other => other

end Entry

/-- A tree from its root on, and the directory that relative paths start from. -/
structure Disk where
  root : Entry
  home : List String
  /-- Names need not be text. A path with a name that is none is held as it is shown, with marks in the places
  of what has no characters. -/
  isText : Path → Bool := fun _ => true
deriving Inhabited

namespace Disk

def empty : Disk := { root := .directory [("work", .directory [])], home := ["work"] }

/-- Where a walk along the pieces of a path got to. -/
inductive Progress where
  | arrived (location : List String)
  | failed (e : FileError)
  /-- A link stands in `directory`, its target is to be followed by the pieces left. -/
  | linked (directory : List String) (target : String) (left : List String)
deriving DecidableEq, Repr

/-- Walks from a directory. What has pieces left must be a directory, also when they are empty or `.`. -/
def walk (root : Entry) (directory : List String) : List String → Progress
  | [] => .arrived directory
  | piece :: left =>
    if piece = "" ∨ piece = "." then walk root directory left
    else if piece = ".." then walk root directory.dropLast left
    else
      match root.at? (directory ++ [piece]) with
      | none => .failed .notFound
      | some (.directory _) => walk root (directory ++ [piece]) left
      | some (.file _) => if left = [] then .arrived (directory ++ [piece]) else .failed .notADirectory
      | some (.link target) => .linked directory target left

def piecesOf (text : String) : List String := (split '/' text.toList).map String.ofList

/-- Walks and follows links, at most as many as the fuel says. -/
def resolve (root : Entry) : Nat → List String → List String → Except FileError (List String)
  | 0, _, _ => .error .tooManyLinks
  | fuel + 1, directory, pieces =>
    match walk root directory pieces with
    | .arrived location => .ok location
    | .failed e => .error e
    | .linked directory target left =>
      if target = "" then .error .notFound
      else
        let start := if Path.isRooted ⟨target⟩ then [] else directory
        resolve root fuel start (piecesOf target ++ left)

def linkLimit : Nat := 40

def locate (d : Disk) (p : Path) : Except FileError (List String) :=
  if p.text = "" then .error .notFound
  else resolve d.root (linkLimit + 1) (if p.isRooted then [] else d.home) (piecesOf p.text)

def entry (d : Disk) (p : Path) : Except FileError Entry := do
  match d.root.at? (← d.locate p) with
  | some e => return e
  | none => throw .notFound

def isFile (d : Disk) (p : Path) : Bool :=
  match d.entry p with
  | .ok (.file _) => true
  | _ => false

def readText (d : Disk) (p : Path) : Except FileError String := do
  match ← d.entry p with
  | .file content =>
    match String.fromUTF8? content with
    | some text => return text
    | none => throw .notText
  | _ => throw .isADirectory

def enter (directory : List String) : Component → List String
  | .root => []
  | .here => directory
  | .up => directory.dropLast
  | .name n => directory ++ [String.ofList n]

/-- Where components lead from a directory, links not followed. -/
def place (directory : List String) (cs : List Component) : List String := cs.foldl enter directory

def passed (directory : List String) : List Component → List (List String)
  | [] => []
  | c :: cs => directory :: passed (enter directory c) cs

def put (d : Disk) (p : Path) (e : Entry) : Disk :=
  { d with root := Entry.put e (place d.home p.components) d.root }

/-- Adds an entry at a path, and every directory that the path passes. -/
def mount (d : Disk) (p : Path) (e : Entry) : Disk :=
  let root := (passed d.home p.components).foldl (fun r names => Entry.put (.directory []) names r) d.root
  { d with root := Entry.put e (place d.home p.components) root }

end Disk

end HookLint.Files
