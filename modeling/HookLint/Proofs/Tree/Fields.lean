import HookLint.Proofs.Tree.Placement

/-! Fields in the order of the text. Where nothing in one field stands in front of something in another one, the
child of the other field comes first in the text. -/
namespace HookLint

namespace Text.Span

structure Inside (s t : Span) : Prop where
  start : t.startByte ≤ s.startByte
  stop : s.endByte ≤ t.endByte

theorem Inside.refl (s : Span) : s.Inside s := ⟨Nat.le_refl _, Nat.le_refl _⟩

theorem Inside.trans {s t u : Span} (inner : s.Inside t) (outer : t.Inside u) : s.Inside u :=
  ⟨outer.start.trans inner.start, inner.stop.trans outer.stop⟩

/-- The one ends where the other begins, or in front of it. -/
def Before (s t : Span) : Prop := s.endByte ≤ t.startByte

instance (s t : Span) : Decidable (s.Before t) := inferInstanceAs (Decidable (s.endByte ≤ t.startByte))

theorem Before.of_inside {s s' t t' : Span} (before : s'.Before t') (left : s.Inside s') (right : t.Inside t') :
    s.Before t :=
  left.stop.trans (Nat.le_trans before right.start)

end Text.Span

namespace Tree.Node

open HookLint.Text

/-- Nothing in field `g` stands in front of something in field `f`. -/
def FieldOrder (n : Node) (f g : String) : Prop :=
  n.children.Pairwise fun c d => c.info.field = some g → d.info.field ≠ some f

instance (n : Node) (f g : String) : Decidable (n.FieldOrder f g) :=
  inferInstanceAs (Decidable (n.children.Pairwise fun c d => c.info.field = some g → d.info.field ≠ some f))

/-- The order that the grammars give to the fields of a node: an object, then its property or its index; a
callee, then the list of the arguments. -/
structure Sequenced (n : Node) : Prop where
  property : n.kind = "member_expression" → n.FieldOrder "object" "property"
  index : n.kind = "subscript_expression" → n.FieldOrder "object" "index"
  arguments : n.kind = "call_expression" → n.FieldOrder "function" "arguments"

instance (n : Node) : Decidable n.Sequenced :=
  decidable_of_iff
    ((n.kind = "member_expression" → n.FieldOrder "object" "property") ∧
      (n.kind = "subscript_expression" → n.FieldOrder "object" "index") ∧
      (n.kind = "call_expression" → n.FieldOrder "function" "arguments"))
    ⟨fun h => ⟨h.1, h.2.1, h.2.2⟩, fun h => ⟨h.property, h.index, h.arguments⟩⟩

def AllSequenced (n : Node) : Prop := ∀ m ∈ n.preorder, m.Sequenced

theorem AllSequenced.child {n c : Node} (sequenced : n.AllSequenced) (child : c ∈ n.children) :
    c.AllSequenced :=
  fun m inside => sequenced m (mem_preorder_of_child child inside)

theorem field_of_childByField {n c : Node} {f : String} (found : n.childByField f = some c) :
    c.info.field = some f := by
  simpa using List.find?_some found

theorem Nests.inside {n c : Node} (nests : n.Nests) (child : c ∈ n.children) : c.span.Inside n.span :=
  ⟨(nests.within c child).1, (nests.within c child).2⟩

section Fields

variable {n c d : Node} {f g : String}

theorem ne_of_childByField (other : f ≠ g) (left : n.childByField f = some c)
    (right : n.childByField g = some d) : c ≠ d := by
  rintro rfl
  exact other (Option.some.inj ((field_of_childByField left).symm.trans (field_of_childByField right)))

/-- Fields stand in the text as they do among the children. -/
theorem Nests.before (nests : n.Nests) (order : n.FieldOrder f g) (other : f ≠ g)
    (left : n.childByField f = some c) (right : n.childByField g = some d) : c.span.Before d.span := by
  have inF := field_of_childByField left
  have inG := field_of_childByField right
  have distinct := ne_of_childByField other left right
  -- of two children the order rules out that they stand the other way round
  let FG : Node → Node → Prop := fun x y =>
    x.info.field = some f → y.info.field = some g → x.span.Before y.span
  have both : n.children.Pairwise fun x y => FG x y ∧ FG y x := by
    refine (nests.apart.and order).imp ?_
    rintro x y ⟨apart, later⟩
    exact ⟨fun _ _ => apart, fun hy hx => absurd hy (later hx)⟩
  have : Std.Symm fun x y => FG x y ∧ FG y x := ⟨fun _ _ h => h.symm⟩
  exact (both.forall (child_of_field left) (child_of_field right) distinct).1 inF inG

end Fields

end Tree.Node

end HookLint
