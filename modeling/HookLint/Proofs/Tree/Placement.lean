import HookLint.Proofs.Tree.Parentheses
import Mathlib.Data.List.Pairwise
import Mathlib.Data.Prod.Lex

/-! Where the nodes of a tree stand in the text. Children stand inside their parent, one behind the other,
so of two nodes one stands inside the other or they do not touch. -/
namespace HookLint.Text

/-- Places in the order of lines, on a line in the order of columns. -/
def Span.place (s : Span) : Nat ×ₗ Nat := toLex (s.line, s.column)

end HookLint.Text

namespace HookLint.Tree.Node

/-- The children stand inside the node and one behind the other. -/
structure Nests (n : Node) : Prop where
  within : ∀ c ∈ n.children, n.span.startByte ≤ c.span.startByte ∧ c.span.endByte ≤ n.span.endByte
  apart : n.children.Pairwise fun c d => c.span.endByte ≤ d.span.startByte

instance (n : Node) : Decidable n.Nests :=
  decidable_of_iff
    ((∀ c ∈ n.children, n.span.startByte ≤ c.span.startByte ∧ c.span.endByte ≤ n.span.endByte) ∧
      n.children.Pairwise fun c d => c.span.endByte ≤ d.span.startByte)
    ⟨fun h => ⟨h.1, h.2⟩, fun h => ⟨h.within, h.apart⟩⟩

def AllNest (n : Node) : Prop := ∀ m ∈ n.preorder, m.Nests

theorem AllNest.self {n : Node} (nest : n.AllNest) : n.Nests := nest n (self_mem_preorder n)

theorem AllNest.below {n m : Node} (nest : n.AllNest) (inside : m ∈ n.preorder) : m.AllNest :=
  fun k deeper => nest k (preorder_trans inside deeper)

theorem AllNest.child {n c : Node} (nest : n.AllNest) (child : c ∈ n.children) : c.AllNest :=
  nest.below (mem_preorder_of_child child (self_mem_preorder c))

theorem mem_preorder_iff {n m : Node} : m ∈ n.preorder ↔ m = n ∨ ∃ c ∈ n.children, m ∈ c.preorder := by
  cases n with
  | mk i cs => simp only [preorder, preorderAll_eq_flatMap, List.mem_cons, List.mem_flatMap, children_mk]

theorem AllNest.within {n m : Node} (nest : n.AllNest) (inside : m ∈ n.preorder) :
    n.span.startByte ≤ m.span.startByte ∧ m.span.endByte ≤ n.span.endByte := by
  induction n using inductionOnChildren with
  | step i cs ih =>
    rcases mem_preorder_iff.mp inside with rfl | ⟨c, child, deeper⟩
    · exact ⟨Nat.le_refl _, Nat.le_refl _⟩
    · obtain ⟨left, right⟩ := nest.self.within c child
      obtain ⟨left', right'⟩ := ih c child (nest.child child) deeper
      exact ⟨left.trans left', right'.trans right⟩

/-- Nodes below different children do not touch. -/
theorem AllNest.apart {n c c' m m' : Node} (nest : n.AllNest) (child : c ∈ n.children)
    (child' : c' ∈ n.children) (other : c ≠ c') (inside : m ∈ c.preorder) (inside' : m' ∈ c'.preorder) :
    m.span.endByte ≤ m'.span.startByte ∨ m'.span.endByte ≤ m.span.startByte := by
  have siblings : n.children.Pairwise fun x y =>
      x.span.endByte ≤ y.span.startByte ∨ y.span.endByte ≤ x.span.startByte :=
    nest.self.apart.imp Or.inl
  have : Std.Symm fun x y : Node =>
      x.span.endByte ≤ y.span.startByte ∨ y.span.endByte ≤ x.span.startByte := ⟨fun _ _ => Or.symm⟩
  have between := siblings.forall child child' other
  have here := (nest.child child).within inside
  have here' := (nest.child child').within inside'
  omega

theorem mem_preorder_of_at? {n m : Node} {a : Address} (found : n.at? a = some m) : m ∈ n.preorder := by
  induction a generalizing n with
  | nil =>
    obtain rfl := Option.some.inj found
    exact self_mem_preorder n
  | cons i a ih =>
    obtain ⟨c, here, below⟩ := Option.bind_eq_some_iff.mp found
    exact mem_preorder_of_child (List.mem_of_getElem? here) (ih below)

theorem exists_at?_of_mem_preorder {n m : Node} (inside : m ∈ n.preorder) : ∃ a, n.at? a = some m := by
  have listed := List.mem_map_of_mem (f := some) inside
  rw [← map_at?_addresses] at listed
  obtain ⟨a, -, found⟩ := List.mem_map.mp listed
  exact ⟨a, found⟩

theorem at?_append (n : Node) (a b : Address) : n.at? (a ++ b) = (n.at? a).bind fun m => m.at? b := by
  induction a generalizing n with
  | nil => rfl
  | cons i a ih =>
    rw [List.cons_append, at?, at?, Option.bind_assoc]
    exact congrArg (n.children[i]?.bind ·) (funext ih)

theorem lt_append_cons (a : Address) (i : Nat) (b : Address) : a < a ++ i :: b := by
  induction a with
  | nil => exact List.nil_lt_cons i b
  | cons j a ih => exact List.cons_lt_cons_iff.mpr (Or.inr ⟨rfl, ih⟩)

/-- What stands below a child of a node has an address that goes on from the one of the node. -/
theorem at?_prefix_iff {n m k : Node} {a : Address} (found : n.at? a = some m) :
    (∃ c ∈ m.children, k ∈ c.preorder) ↔ ∃ b, a < b ∧ a <+: b ∧ n.at? b = some k := by
  constructor
  · rintro ⟨c, child, inside⟩
    obtain ⟨i, here⟩ := List.mem_iff_getElem?.mp child
    obtain ⟨b, below⟩ := exists_at?_of_mem_preorder inside
    refine ⟨a ++ i :: b, lt_append_cons a i b, List.prefix_append a _, ?_⟩
    rw [at?_append, found, Option.bind_some, at?, here, Option.bind_some, below]
  · rintro ⟨_, before, ⟨b, rfl⟩, there⟩
    rw [at?_append, found, Option.bind_some] at there
    cases b with
    | nil =>
      rw [List.append_nil] at before
      exact absurd before (List.lt_irrefl a)
    | cons i b =>
      obtain ⟨c, here, below⟩ := Option.bind_eq_some_iff.mp there
      exact ⟨c, List.mem_of_getElem? here, mem_preorder_of_at? below⟩

/-- A property of the nodes of a tree, in the order of the tree, as a property of their addresses. -/
theorem filterMap_preorder_eq {β : Type} (n : Node) (f : Node → Option β) :
    n.preorder.filterMap f = n.addresses.filterMap fun a => (n.at? a).bind f := by
  have same := congrArg (List.filterMap fun m => m.bind f) (map_at?_addresses n)
  rw [List.filterMap_map, List.filterMap_map] at same
  exact same.symm

end HookLint.Tree.Node

namespace HookLint.Tree

/-- A node on the first line. -/
def branch (kind : String) (field : Option String) (start stop : Nat) (cs : List Node) : Node :=
  .mk { kind, named := true, field, span := ⟨start, stop, 1, start + 1⟩ } cs

def token (text : String) (start : Nat) : Node :=
  .mk { kind := text, named := false, span := ⟨start, start + text.length, 1, start + 1⟩ } []

end HookLint.Tree
