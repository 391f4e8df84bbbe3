/-!
How heavy a finding weighs. The level is only a label of findings; it decides the exit status.
-/
namespace HookLint

inductive Severity where
  | error
  | warn
deriving DecidableEq, Repr, Inhabited

namespace Severity

def name : Severity → String
  | error => "error"
  | warn => "warn"

/-- Spellings differ in the case of ASCII letters only. -/
def folded (text : String) : List Char := text.toList.map Char.toLower

def parse? (text : String) : Option Severity :=
  let word := folded text
  if word = ['e', 'r', 'r', 'o', 'r'] ∨ word = ['2'] then some error
  else if word = ['w', 'a', 'r', 'n'] ∨ word = ['w', 'a', 'r', 'n', 'i', 'n', 'g'] ∨ word = ['1'] then
    some warn
  else none

end Severity

end HookLint
