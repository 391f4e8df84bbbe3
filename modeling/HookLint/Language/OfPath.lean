import HookLint.Files.Path

/-!
The language of a source file, by the name of the file alone.
-/
namespace HookLint

open HookLint.Files

inductive Language where
  /-- With the element notation. -/
  | javaScript
  | typeScript
  /-- With the element notation. -/
  | tsx
deriving DecidableEq, Repr

namespace Language

def endsWith (ending name : List Char) : Bool := ending.isSuffixOf name

/-- Declaration files have no calls worth a check. -/
def isDeclaration (name : List Char) : Bool :=
  endsWith ".d.ts".toList name || endsWith ".d.mts".toList name || endsWith ".d.cts".toList name

def ofName? (name : List Char) : Option Language :=
  match (Path.extensionOf? name).map String.ofList with
  | some "js" | some "jsx" | some "mjs" | some "cjs" => some .javaScript
  | some "ts" | some "mts" | some "cts" => if isDeclaration name then none else some .typeScript
  | some "tsx" => some .tsx
  | _ => none

def ofPath? (p : Path) : Option Language := p.fileName?.bind ofName?

/-- The language that a file is read in; one of no known kind is read as JavaScript. -/
def ofPath (p : Path) : Language := (ofPath? p).getD .javaScript

end Language

end HookLint
