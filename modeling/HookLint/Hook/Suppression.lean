import HookLint.Text.Split

/-!
A line that carries the ignore mark has no findings.
-/
namespace HookLint.Hook

open HookLint.Text

def ignoreMark : String := "named-hooks-ignore"

def carriesMark (line : List Char) : Bool := occurs ignoreMark.toList line

/-- The numbers of the lines that satisfy a test, the first line being number `n`. -/
def numbersWhere (p : List Char → Bool) (n : Nat) : List (List Char) → List Nat
  | [] => []
  | line :: rest => if p line then n :: numbersWhere p (n + 1) rest else numbersWhere p (n + 1) rest

/-- The numbers of the lines without findings, from 1. -/
def ignoredLines (source : String) : List Nat := numbersWhere carriesMark 1 (lines source.toList)

end HookLint.Hook
