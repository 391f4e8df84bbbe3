import HookLint.Config.Severity
import HookLint.Files.Path
import HookLint.Hook.Detector

/-!
How the rule presents itself, and its findings.
-/
namespace HookLint.Hook

structure Rule where
  name : String
  kind : String
  description : String
  category : String
  recommended : Bool
deriving DecidableEq, Repr

def namedFunctions : Rule where
  name := "named-functions-in-hooks"
  kind := "suggestion"
  description := "Enforce named functions in React hooks"
  category := "Best Practices"
  recommended := true

def messageId : String := "useNamedFunctions"

def messageFront : String := "Only named functions are allowed in "
def messageBack : String := "."

/-- The message with a place for the name of the hook. -/
def messageTemplate : String := messageFront ++ "\x7b\x7bhook\x7d\x7d" ++ messageBack

def Diagnostic.message (d : Diagnostic) : String := messageFront ++ d.hook ++ messageBack

structure Finding where
  message : String
  ruleId : String
  file : Files.Path
  line : Nat
  column : Nat
  severity : Severity
deriving DecidableEq, Repr, Inhabited

def Diagnostic.finding (d : Diagnostic) (file : Files.Path) (severity : Severity) : Finding where
  message := d.message
  ruleId := namedFunctions.name
  file := file
  line := d.span.line
  column := d.span.column
  severity := severity

end HookLint.Hook
