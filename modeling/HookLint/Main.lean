import HookLint.Command.Run

/-!
The command. It takes a picture of the files that a run may look at, and prints the answer.
-/
namespace HookLint.Command

open HookLint.Files

/-- Files of other kinds than sources and configurations are in the picture without their text. -/
def isWanted (name : String) : Bool :=
  name == Config.fileName || (Language.ofName? name.toList).isSome

/-- What stands at a place, if anything does. Links are followed here, but left out below a directory. -/
partial def picture (top : Bool) (place : IO.FS.DirEntry) : IO (Option Entry) := do
  match ← (if top then place.path.metadata else place.path.symlinkMetadata).toBaseIO with
  | .error _ => return none
  | .ok about =>
    match about.type with
    | .file =>
      if top || isWanted place.fileName then return some (.file (← IO.FS.readBinFile place.path))
      else return some (.file .empty)
    | .dir =>
      if !top && isSkipped place.fileName then return some (.directory [])
      let mut entries : List (String × Entry) := []
      for inner in ← place.path.readDir do
        match ← picture false inner with
        | some e => entries := (inner.fileName, e) :: entries
        | none => pure ()
      return some (.directory entries)
    | _ => return none

def addPicture (d : Disk) (p : Path) : IO Disk := do
  match ← if p.text.isEmpty then pure none else picture true ⟨".", p.text⟩ with
  | some e => return d.mount p e
  | none => return d

/-- An empty disk with the working directory that the command was started in. -/
def startDisk : IO Disk := do
  let directory := Disk.place [] (Path.components ⟨(← IO.currentDir).toString⟩)
  return { root := Entry.put (.directory []) directory (.directory []), home := directory }

/-- Shades are for a terminal, or where they are asked for. -/
def wantsShades : IO Bool := do
  match ← IO.getEnv "CLICOLOR_FORCE" with
  | some value => if value != "0" then return true
  | none => pure ()
  return (← (← IO.getStdout).isTty) && (← IO.getEnv "NO_COLOR").isNone

def answerWords (words : List String) : IO Answer := do
  let paths := match Request.ofWords words with
    | .ok (.run o) => wantedPaths o
    | _ => []
  let disk ← paths.foldlM addPicture (← startDisk)
  return run disk (← wantsShades) (← IO.getEnv "RUST_LOG") words

end HookLint.Command

open HookLint.Command in
def main (words : List String) : IO UInt32 := do
  let a ← answerWords words
  for n in a.notes do IO.eprintln n.text
  IO.print a.output
  for l in a.complaints do IO.eprintln l
  return a.status.toUInt32
