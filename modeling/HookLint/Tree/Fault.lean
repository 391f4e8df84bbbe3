import HookLint.Tree.Walk

/-!
The first syntax error of a tree.
-/
namespace HookLint.Tree

open HookLint.Text

/-- An error, or a token that the text lacks. -/
def Node.isFault (n : Node) : Bool := n.info.isError || n.info.isMissing

def Node.hasError (n : Node) : Bool := n.info.hasError

def keepFirst (p : Node → Bool) (found : Option Node) (n : Node) : Option Node :=
  match found with
  | some f => some f
  | none => if p n then some n else none

/-- The first faulty node of a walk that enters only what is flagged. -/
def Node.flaggedFault? (root : Node) : Option Node :=
  (Walker.start root).fold Node.hasError (keepFirst Node.isFault) none

/-- Where the first syntax error stands; the start of the tree when it is flagged but shows no fault. -/
def Node.firstFault? (root : Node) : Option Position :=
  if root.hasError then some ((root.flaggedFault?.getD root).span.position) else none

end HookLint.Tree
