import HookLint.Files.Disk
import HookLint.Json.Fault
import HookLint.Json.Value

/-!
What can be wrong with a configuration.
-/
namespace HookLint

inductive ConfigFault where
  | unreadable (file : Files.Path) (reason : Files.FileError)
  | notJson (file : Files.Path) (reason : Json.SyntaxError)
  | notAnObject (found : Json.Kind)
  | unknownKey (key : String)
  | hooksNotAnArray (found : Json.Kind)
  | nonStringHook (index : Nat) (found : Json.Kind)
  | emptyHook (index : Nat)
  | invalidHookName (index : Nat) (name : String)
  | unknownSeverity (text : String)
deriving DecidableEq, Repr

namespace ConfigFault

def hookAt (index : Nat) : String := "`additionalHooks[" ++ toString index ++ "]`"

def message : ConfigFault → String
  | unreadable file reason => "failed to read config file " ++ file.text ++ ": " ++ reason.message
  | notJson file reason => "invalid JSON in config file " ++ file.text ++ ": " ++ reason.message
  | notAnObject found => "config must be a JSON object, found " ++ found.name
  | unknownKey key => "unknown config key `" ++ key ++ "` (expected `severity` or `additionalHooks`)"
  | hooksNotAnArray found => "`additionalHooks` must be an array of strings, found " ++ found.name
  | nonStringHook index found => hookAt index ++ " must be a string, found " ++ found.name
  | emptyHook index => hookAt index ++ " is empty"
  | invalidHookName index name => hookAt index ++ " (`" ++ name ++ "`) is not a valid identifier"
  | unknownSeverity text => "unknown severity `" ++ text ++ "` (expected `error` or `warn`)"

/-- What lies behind a fault, when it is not of the configuration's own. -/
def cause? : ConfigFault → Option String
  | unreadable _ reason => some reason.message
  | notJson _ reason => some reason.message
  | _ => none

end ConfigFault

end HookLint
