import HookLint.Proofs.Hook.Exactness
import HookLint.Proofs.Tree.Fields

/-! What an expression says of the text. Its names are the texts at their places, its places lie inside the
node that it comes from, and in a member the object stands in front of the property. -/
namespace HookLint.Hook

open HookLint.Text HookLint.Tree

/-- What occurs in an expression or a property at any depth: names, places, and members as pairs of object and
property. -/
structure Contents where
  names : List Identifier
  spans : List Span
  members : List (Expression × Property)

mutual

def Expression.contents : Expression → Contents
  | .identifier id => ⟨[id], [id.span], []⟩
  | .member object property span =>
    ⟨object.contents.names ++ property.contents.names,
      span :: (object.contents.spans ++ property.contents.spans),
      (object, property) :: (object.contents.members ++ property.contents.members)⟩
  | .arrow span => ⟨[], [span], []⟩
  | .function name span => ⟨name.toList, span :: name.toList.map (·.span), []⟩
  | .other span => ⟨[], [span], []⟩

def Property.contents : Property → Contents
  | .named id => ⟨[id], [id.span], []⟩
  | .hidden id => ⟨[id], [id.span], []⟩
  | .computed index => index.contents

end

variable {bytes : ByteArray}

/-- The contents are true of the text and of a node. Only the order of the objects and their properties needs
that of the fields. -/
structure Faithful (bytes : ByteArray) (n : Node) (k : Contents) : Prop where
  names : ∀ id ∈ k.names, slice bytes id.span = some id.name
  spans : ∀ s ∈ k.spans, s.Inside n.span
  members : n.AllSequenced → ∀ m ∈ k.members, ∀ s ∈ m.1.contents.spans, ∀ t ∈ m.2.contents.spans, s.Before t

namespace Faithful

theorem of_child {n c : Node} {k : Contents} (faithful : Faithful bytes c k) (nests : n.Nests)
    (child : c ∈ n.children) : Faithful bytes n k where
  names := faithful.names
  spans s member := (faithful.spans s member).trans (nests.inside child)
  members sequenced := faithful.members (sequenced.child child)

theorem plain (n : Node) : Faithful bytes n ⟨[], [n.span], []⟩ where
  names := nofun
  spans := List.forall_mem_singleton.mpr (.refl n.span)
  members _ := nofun

theorem name {n : Node} {id : Identifier} (spelled : identifier? bytes n = some id) :
    Faithful bytes n ⟨[id], [id.span], []⟩ := by
  obtain ⟨text, read, rfl⟩ := Option.map_eq_some_iff.mp spelled
  exact ⟨List.forall_mem_singleton.mpr read, List.forall_mem_singleton.mpr (.refl n.span), fun _ => nofun⟩

theorem function {n : Node} {name : Option Identifier} (nests : n.Nests)
    (named : (n.childByField "name").bind (identifier? bytes) = name) :
    Faithful bytes n (Expression.function name n.span).contents := by
  cases name with
  | none => exact plain n
  | some id =>
    obtain ⟨c, found, spelled⟩ := Option.bind_eq_some_iff.mp named
    have inner := (Faithful.name spelled).of_child nests (Node.child_of_field found)
    exact ⟨inner.names, List.forall_mem_cons.mpr ⟨.refl n.span, inner.spans⟩, inner.members⟩

theorem property {c : Node} {p : Property} (named : propertyOf bytes c = some p)
    (index : Faithful bytes c (lower bytes c).contents) : Faithful bytes c p.contents := by
  unfold propertyOf at named
  split at named
  · obtain ⟨id, spelled, rfl⟩ := Option.map_eq_some_iff.mp named
    exact .name spelled
  · obtain ⟨id, spelled, rfl⟩ := Option.map_eq_some_iff.mp named
    exact .name spelled
  · obtain rfl := Option.some.inj named
    exact index

theorem member {n c d : Node} {f g : String} {object : Expression} {p : Property} (nests : n.Nests)
    (other : f ≠ g) (order : n.AllSequenced → n.FieldOrder f g) (left : n.childByField f = some c)
    (right : n.childByField g = some d) (first : Faithful bytes c object.contents)
    (second : Faithful bytes d p.contents) :
    Faithful bytes n (Expression.member object p n.span).contents := by
  have first' := first.of_child nests (Node.child_of_field left)
  have second' := second.of_child nests (Node.child_of_field right)
  constructor
  · exact List.forall_mem_append.mpr ⟨first'.names, second'.names⟩
  · exact List.forall_mem_cons.mpr ⟨.refl n.span, List.forall_mem_append.mpr ⟨first'.spans, second'.spans⟩⟩
  · intro sequenced
    have before := nests.before (order sequenced) other left right
    refine List.forall_mem_cons.mpr ⟨?_, ?_⟩
    · intro s hs t ht
      exact before.of_inside (first.spans s hs) (second.spans t ht)
    · exact List.forall_mem_append.mpr ⟨first'.members sequenced, second'.members sequenced⟩

end Faithful

theorem span_mem_contents (e : Expression) : e.span ∈ e.contents.spans := by
  cases e <;> exact List.mem_cons_self

/-- The places of one expression are in front of those of another one. -/
def Expression.Before (e f : Expression) : Prop := ∀ s ∈ e.contents.spans, ∀ t ∈ f.contents.spans, s.Before t

theorem Expression.Before.spans {e f : Expression} (before : e.Before f) : e.span.Before f.span :=
  before _ (span_mem_contents e) _ (span_mem_contents f)

end HookLint.Hook
