import HookLint.Proofs.Tree.Parentheses
import Mathlib.Logic.Relation

/-! Comments and parentheses that come into a tree. The nodes that were there stay as they are; only the field
of a node in new parentheses passes to these. -/
namespace HookLint.Tree

namespace Node

def inField (field : Option String) : Node → Node
  | mk i cs => mk { i with field } cs

/-- No node of the tree is a call. -/
def Callless (n : Node) : Prop := ∀ m ∈ n.preorder, m.kind ≠ "call_expression"

/-- A comment, or anything else that may stand anywhere. Such nodes are in no field. -/
structure Comment (n : Node) : Prop where
  extra : n.info.extra
  field : n.info.field = none
  callless : n.Callless

/-- The children of a node that parentheses may be put around. -/
inductive Enclosable (parent : NodeInfo) (child : Node) : Prop where
  | callee (kind : parent.kind = "call_expression") (field : child.info.field = some "function")
  | object (kind : parent.kind = "member_expression" ∨ parent.kind = "subscript_expression")
      (field : child.info.field = some "object")
  | index (kind : parent.kind = "subscript_expression") (field : child.info.field = some "index")
  | argument (kind : parent.kind = "arguments")

/-- What stands beside a node in its parentheses: punctuation and comments. -/
structure Beside (n : Node) : Prop where
  noArgument : n.info.isArgument = false
  callless : n.Callless

/-- Parentheses around a node, in the field of the node. -/
structure Encloses (w c : Node) : Prop where
  kind : w.kind = "parenthesized_expression"
  named : w.info.named
  noExtra : w.info.extra = false
  field : w.info.field = c.info.field
  argument : c.info.isArgument
  around : ∃ field front back, w.children = front ++ c.inField field :: back ∧
    ∀ m ∈ front ++ back, m.Beside

end Node

/-- A comment is put among the children of a node, or parentheses around a child, at any depth. -/
inductive Edit : Node → Node → Prop where
  | comment (i : NodeInfo) (front back : List Node) {e : Node} (comment : e.Comment) :
      Edit (.mk i (front ++ back)) (.mk i (front ++ e :: back))
  | enclose (i : NodeInfo) (front back : List Node) {c w : Node} (enclosable : c.Enclosable i)
      (encloses : w.Encloses c) : Edit (.mk i (front ++ c :: back)) (.mk i (front ++ w :: back))
  | inside (i : NodeInfo) (front back : List Node) {c c' : Node} (edit : Edit c c') :
      Edit (.mk i (front ++ c :: back)) (.mk i (front ++ c' :: back))

abbrev Edits : Node → Node → Prop := Relation.ReflTransGen Edit

end HookLint.Tree
