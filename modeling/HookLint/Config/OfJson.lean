import HookLint.Config.Basic
import HookLint.Json.Printer
import HookLint.Json.Reader

/-!
The configuration that a JSON value, a file or a directory gives. Members are taken in the order of the
object, list items in theirs; the first fault is the answer.
-/
namespace HookLint.Config

open HookLint.Files

/-- A severity is a string, or a number that is taken as it is printed. -/
def severityOfJson : Json.Value → Except ConfigFault Severity
  | .string s => severityOf s
  | .number n => severityOf (String.ofList n.text)
  | v => .error (.unknownSeverity (Json.compactText v))

def addItems (c : Config) (index : Nat) : List Json.Value → Except ConfigFault Config
  | [] => .ok c
  | .string name :: items =>
    match hookFault? index name with
    | some f => .error f
    | none => (c.addHook name).addItems (index + 1) items
  | v :: _ => .error (.nonStringHook index v.kind)

def addMember (c : Config) (key : String) (v : Json.Value) : Except ConfigFault Config :=
  if key = "severity" then (severityOfJson v).map fun s => { c with severity := s }
  else if key = "additionalHooks" then
    match v with
    | .array items => c.addItems 0 items
    | other => .error (.hooksNotAnArray other.kind)
  else .error (.unknownKey key)

def addMembers (c : Config) : List (String × Json.Value) → Except ConfigFault Config
  | [] => .ok c
  | (key, v) :: ms => do (← c.addMember key v).addMembers ms

def ofJson : Json.Value → Except ConfigFault Config
  | .object members => addMembers {} members
  | v => .error (.notAnObject v.kind)

def ofFile (d : Disk) (p : Path) : Except ConfigFault Config := do
  let text ← (d.readText p).mapError (.unreadable p)
  let value ← (Json.read text).mapError (.notJson p)
  ofJson value

def fileName : String := ".named-hooks.json"

/-- The configuration file of a directory, if it is there. -/
def fileIn? (d : Disk) (directory : Path) : Option Path :=
  let p := directory.join fileName
  if d.isFile p then some p else none

def discover (d : Disk) (directory : Path) : Except ConfigFault Config :=
  match fileIn? d directory with
  | some p => ofFile d p
  | none => .ok {}

end HookLint.Config
