import HookLint.Proofs.Tree.Preorder

/-! The node inside parentheses. Parentheses are nodes of their own; comments may stand inside them. -/
namespace HookLint.Tree.Node

theorem size_lt_of_child {n c : Node} (child : c ∈ n.children) : c.size < n.size := by
  cases n with
  | mk i cs =>
    simp only [children] at child
    have below : c.size ≤ sizeAll cs := by
      induction cs with
      | nil => cases child
      | cons d ds ih =>
        rw [sizeAll]
        rcases List.mem_cons.mp child with rfl | child
        · omega
        · have := ih child
          omega
    rw [size]
    omega

theorem child_of_arguments_head? {n c : Node} (first : n.arguments.head? = some c) :
    c ∈ n.children :=
  (List.mem_filter.mp (List.mem_of_mem_head? first)).1

/-- The node inside all parentheses. Parentheses around nothing stay. -/
def strip (n : Node) : Node :=
  if n.kind = "parenthesized_expression" then
    match _ : n.arguments.head? with
    | some c => c.strip
    | none => n
  else n
termination_by n.size
decreasing_by exact size_lt_of_child (child_of_arguments_head? (by assumption))

theorem strip_of_kind {n : Node} (other : n.kind ≠ "parenthesized_expression") : n.strip = n := by
  rw [strip, if_neg other]

theorem strip_of_inner {n c : Node} (parenthesized : n.kind = "parenthesized_expression")
    (inner : n.arguments.head? = some c) : n.strip = c.strip := by
  rw [strip, if_pos parenthesized]
  split
  · rename_i d hd
    rw [inner] at hd
    cases hd
    rfl
  · rename_i stop
    rw [inner] at stop
    cases stop

theorem strip_of_empty {n : Node} (empty : n.arguments.head? = none) : n.strip = n := by
  rw [strip]
  split
  · split
    · rename_i d hd
      rw [empty] at hd
      cases hd
    · rfl
  · rfl

/-- What holds of all nodes that are not parentheses around something, and passes through these, holds
of all nodes. -/
theorem strip_induction {P : Node → Prop}
    (bare : ∀ n, n.kind ≠ "parenthesized_expression" ∨ n.arguments.head? = none → P n)
    (inside : ∀ n c, n.kind = "parenthesized_expression" → n.arguments.head? = some c → P c → P n)
    (n : Node) : P n := by
  induction n using inductionOnChildren with
  | step i cs ih =>
    by_cases kind : (mk i cs).kind = "parenthesized_expression"
    · cases first : (mk i cs).arguments.head? with
      | none => exact bare _ (Or.inr first)
      | some c => exact inside _ c kind first (ih c (child_of_arguments_head? first))
    · exact bare _ (Or.inl kind)

theorem strip_mem_preorder (n : Node) : n.strip ∈ n.preorder := by
  induction n using strip_induction with
  | bare n bare =>
    rcases bare with other | empty
    · rw [strip_of_kind other]
      exact self_mem_preorder n
    · rw [strip_of_empty empty]
      exact self_mem_preorder n
  | inside n c parenthesized inner ih =>
    rw [strip_of_inner parenthesized inner]
    exact mem_preorder_of_child (child_of_arguments_head? inner) ih

end HookLint.Tree.Node
