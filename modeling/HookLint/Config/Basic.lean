import HookLint.Config.Fault
import HookLint.Config.Severity
import HookLint.Text.Letter

/-!
The configuration: hook names to track besides the usual ones, and the severity of findings.

Names are added one by one; the first that is not allowed ends the addition, and the names before it
stay. Faults count the additional hooks from 0.
-/
namespace HookLint

open HookLint.Text

structure Config where
  additionalHooks : List String := []
  severity : Severity := .error
deriving DecidableEq, Repr, Inhabited

def defaultHooks : List String := ["useEffect", "useMemo", "useCallback"]

def startsName (c : Char) : Bool := Letter.isAlphabetic c || c == '_' || c == '$'

def continuesName (c : Char) : Bool :=
  Letter.isAlphabetic c || Letter.isNumeric c || c == '_' || c == '$'

def isIdentifier (name : String) : Bool :=
  match name.toList with
  | [] => false
  | c :: cs => startsName c && cs.all continuesName

/-- What keeps a name from being the additional hook of a number. -/
def hookFault? (index : Nat) (name : String) : Option ConfigFault :=
  if name = "" then some (.emptyHook index)
  else if isIdentifier name then none
  else some (.invalidHookName index name)

namespace Config

def addHook (c : Config) (name : String) : Config :=
  { c with additionalHooks := c.additionalHooks ++ [name] }

def addHooks (c : Config) (names : List String) : Config := names.foldl addHook c

/-- Adds names up to the first that is not allowed. -/
def extendHooks (c : Config) : List String → Config × Option ConfigFault
  | [] => (c, none)
  | name :: names =>
    match hookFault? c.additionalHooks.length name with
    | some f => (c, some f)
    | none => (c.addHook name).extendHooks names

def withHooks (names : List String) : Except ConfigFault Config :=
  match extendHooks {} names with
  | (c, none) => .ok c
  | (_, some f) => .error f

def severityOf (text : String) : Except ConfigFault Severity :=
  match Severity.parse? text with
  | some s => .ok s
  | none => .error (.unknownSeverity text)

/-- Names appended to a list that are not there yet. -/
def addNew (known : List String) : List String → List String
  | [] => known
  | name :: names => addNew (if known.contains name then known else known ++ [name]) names

/-- All tracked names, each once, the usual ones first. -/
def hooks (c : Config) : List String := addNew defaultHooks c.additionalHooks

end Config

end HookLint
