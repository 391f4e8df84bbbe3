import HookLint.Config.OfJson

/-!
Runs of changes to a configuration. A change that fails leaves the configuration as it was, except that
an extension keeps the names before the fault.
-/
namespace HookLint.Config

open HookLint.Files

inductive Step where
  | reset
  | withHooks (names : List String)
  | extendHooks (names : List String)
  | severity (text : String)
  | json (text : String)
  | file (p : Path)
  | discover (directory : Path)
deriving DecidableEq, Repr

inductive StepFault where
  /-- The text of the step is not JSON. -/
  | text (e : Json.SyntaxError)
  | config (f : ConfigFault)
deriving DecidableEq, Repr

def StepFault.message : StepFault → String
  | text e => e.message
  | config f => f.message

def ofText (text : String) : Except StepFault Config :=
  match Json.read text with
  | .error e => .error (.text e)
  | .ok v => (ofJson v).mapError .config

/-- The configuration in place of the old one, unless there is a fault. -/
def replace (c : Config) : Except StepFault Config → Config × Option StepFault
  | .ok new => (new, none)
  | .error f => (c, some f)

def apply (d : Disk) (c : Config) : Step → Config × Option StepFault
  | .reset => ({}, none)
  | .withHooks names => c.replace ((Config.withHooks names).mapError .config)
  | .extendHooks names => ((c.extendHooks names).1, (c.extendHooks names).2.map .config)
  | .severity text =>
    c.replace (((severityOf text).map fun s => { c with severity := s }).mapError .config)
  | .json text => c.replace (ofText text)
  | .file p => c.replace ((ofFile d p).mapError .config)
  | .discover p => c.replace ((Config.discover d p).mapError .config)

def run (d : Disk) (c : Config) : List Step → List (Config × Option StepFault)
  | [] => []
  | s :: ss => c.apply d s :: run d (c.apply d s).1 ss

end HookLint.Config
