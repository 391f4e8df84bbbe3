import HookLint.Config.Basic
import HookLint.Hook.Lower
import HookLint.Hook.Rule
import HookLint.Hook.Suppression
import HookLint.Tree.Walk

/-!
A visitor looks at the calls of one file, counts them and collects the findings in the order of the
visits. A finding on a line with the ignore mark is passed over.
-/
namespace HookLint.Check

open HookLint.Hook HookLint.Tree

/-- What is looked for, and how it is labelled. -/
structure Checker where
  hooks : List String
  severity : Severity
deriving DecidableEq, Repr

def Checker.ofConfig (c : Config) : Checker := ⟨c.hooks, c.severity⟩

structure Visitor where
  file : Files.Path
  ignored : List Nat
  calls : Nat := 0
  findings : List Finding := []
  /-- The lines of the findings that were passed over. -/
  suppressed : List Nat := []
deriving DecidableEq, Repr

namespace Visitor

def start (file : Files.Path) (source : String) : Visitor where
  file := file
  ignored := ignoredLines source

def report (k : Checker) (v : Visitor) (d : Diagnostic) : Visitor :=
  if v.ignored.contains d.span.line then { v with suppressed := v.suppressed ++ [d.span.line] }
  else { v with findings := v.findings ++ [d.finding v.file k.severity] }

def visitCall (k : Checker) (v : Visitor) (call : Call) : Visitor :=
  let v := { v with calls := v.calls + 1 }
  match detect? k.hooks call with
  | none => v
  | some d => v.report k d

def visitNode (k : Checker) (bytes : ByteArray) (v : Visitor) (n : Node) : Visitor :=
  match lowerCall? bytes n with
  | none => v
  | some call => v.visitCall k call

/-- Walks through a whole tree, also through what is reported. -/
def visitTree (k : Checker) (bytes : ByteArray) (v : Visitor) (root : Node) : Visitor :=
  (Walker.start root).fold (fun _ => true) (visitNode k bytes) v

end Visitor

end HookLint.Check
