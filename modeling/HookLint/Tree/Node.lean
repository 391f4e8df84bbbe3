import HookLint.Text.Span

/-!
Concrete trees of source text. A node has a kind and, in its parent, perhaps a field name; named nodes
carry meaning, extras may stand anywhere.
-/
namespace HookLint.Tree

open HookLint.Text

structure NodeInfo where
  kind : String
  named : Bool
  extra : Bool := false
  isError : Bool := false
  isMissing : Bool := false
  /-- Something inside, or the node itself, is in error. -/
  hasError : Bool := false
  field : Option String := none
  span : Span
deriving DecidableEq, Repr, Inhabited

/-- Neither punctuation nor an extra. -/
def NodeInfo.isArgument (i : NodeInfo) : Bool := i.named && !i.extra

inductive Node where
  | mk (info : NodeInfo) (children : List Node)

namespace Node

instance : Inhabited Node := ⟨.mk default []⟩

def info : Node → NodeInfo
  | mk i _ => i

def children : Node → List Node
  | mk _ cs => cs

def kind (n : Node) : String := n.info.kind
def span (n : Node) : Span := n.info.span

def childByField (n : Node) (name : String) : Option Node :=
  n.children.find? fun c => c.info.field == some name

/-- The children that are neither punctuation nor extras. -/
def arguments (n : Node) : List Node :=
  n.children.filter fun c => c.info.isArgument

mutual

/-- The node and everything below it, a parent before its children, in the order of the text. -/
def preorder : Node → List Node
  | mk i cs => mk i cs :: preorderAll cs

def preorderAll : List Node → List Node
  | [] => []
  | c :: cs => c.preorder ++ preorderAll cs

end

mutual

def size : Node → Nat
  | mk _ cs => sizeAll cs + 1

def sizeAll : List Node → Nat
  | [] => 0
  | c :: cs => c.size + sizeAll cs

end

end Node

end HookLint.Tree
