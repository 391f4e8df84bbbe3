import HookLint.Text.Similarity

/-!
The arguments of the command, and what it says when it is called wrongly.
-/
namespace HookLint.Command

open HookLint.Text

inductive Argument where
  | path
  | config
  | hook
  | severity
  | json
  | verbose
  | help
  | version
deriving DecidableEq, Repr

namespace Argument

def long? : Argument → Option String
  | path => none
  | config => some "config"
  | hook => some "hook"
  | severity => some "severity"
  | json => some "json"
  | verbose => some "verbose"
  | help => some "help"
  | version => some "version"

def short? : Argument → Option Char
  | config => some 'c'
  | verbose => some 'v'
  | help => some 'h'
  | version => some 'V'
  | _ => none

def value? : Argument → Option String
  | config => some "CONFIG"
  | hook => some "NAME"
  | severity => some "SEVERITY"
  | _ => none

def isPath : Argument → Bool
  | path | config => true
  | _ => false

def repeats : Argument → Bool
  | hook => true
  | _ => false

def all : List Argument := [path, config, hook, severity, json, verbose, help, version]

def ofLong? (word : String) : Option Argument := all.find? fun a => a.long? == some word

def ofShort? (c : Char) : Option Argument := all.find? fun a => a.short? == some c

def display (a : Argument) : String :=
  match a.long?, a.value? with
  | some word, some value => "--" ++ word ++ " <" ++ value ++ ">"
  | some word, none => "--" ++ word
  | none, _ => "[PATH]"

/-- The option that a word may have been meant for: more than seven tenths alike. -/
def similar? (word : String) : Option Argument :=
  mostLike? (7, 10) word.toList (all.filterMap fun a => a.long?.map fun w => (a, w.toList))

end Argument

def programName : String := "named-hooks"

/-- How the command is called, with the options that were given, or in general. -/
def usage (given : List Argument) : String :=
  "Usage: " ++ programName ++ " " ++
    (if given.isEmpty then "[OPTIONS] "
     else String.join ((given.filter (· ≠ .path)).map fun a => a.display ++ " ")) ++ "[PATH]"

inductive UsageError where
  | missingValue (a : Argument)
  | repeated (a : Argument)
  | unexpectedValue (value : String) (a : Argument) (given : List Argument)
  /-- With the option that may have been meant, and whether it could be a value behind `--`. -/
  | unexpected (text : String) (meant : Option Argument) (asValue : Bool) (given : List Argument)
deriving DecidableEq, Repr

namespace UsageError

def what : UsageError → String
  | missingValue a => "a value is required for '" ++ a.display ++ "' but none was supplied"
  | repeated a => "the argument '" ++ a.display ++ "' cannot be used multiple times"
  | unexpectedValue v a _ =>
    "unexpected value '" ++ v ++ "' for '" ++ a.display ++ "' found; no more were expected"
  | unexpected text _ _ _ => "unexpected argument '" ++ text ++ "' found"

def tips : UsageError → List String
  | unexpected text meant asValue _ =>
    (match meant.bind Argument.long? with
      | some word => ["", "  tip: a similar argument exists: '--" ++ word ++ "'"]
      | none => []) ++
    (if asValue then ["", "  tip: to pass '" ++ text ++ "' as a value, use '-- " ++ text ++ "'"] else [])
  | _ => []

def usageLines : UsageError → List String
  | missingValue _ => []
  | repeated _ => ["", usage []]
  | unexpectedValue _ _ given => ["", usage given]
  | unexpected _ _ _ given => ["", usage given]

def lines (e : UsageError) : List String :=
  ("error: " ++ e.what) :: e.tips ++ e.usageLines ++ ["", "For more information, try '--help'."]

end UsageError

end HookLint.Command
