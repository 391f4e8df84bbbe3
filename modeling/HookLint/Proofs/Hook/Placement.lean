import HookLint.Proofs.Hook.Exactness
import HookLint.Proofs.Tree.Placement
import Mathlib.Data.List.Lex

/-! Where the report of a call stands: at the function, so behind the callee. A call inside another one
is reported behind it, unless all of it stands in front of the function of the other. -/
namespace HookLint.Hook

open HookLint.Text HookLint.Tree

variable {bytes : ByteArray} {hooks : List String}

/-- What is reported of a node. -/
def flagged? (bytes : ByteArray) (hooks : List String) (n : Node) : Option Diagnostic :=
  (lowerCall? bytes n).bind (detect? hooks)

/-- Callees and functions are not empty. -/
structure Filled (n : Node) : Prop where
  callee : n.kind = "call_expression" → ∀ callee ∈ n.childByField "function",
    callee.span.startByte < callee.span.endByte
  function : n.kind ∈ "arrow_function" :: functionKinds → n.span.startByte < n.span.endByte

instance (n : Node) : Decidable (Filled n) :=
  decidable_of_iff
    ((n.kind = "call_expression" → ∀ callee ∈ n.childByField "function",
        callee.span.startByte < callee.span.endByte) ∧
      (n.kind ∈ "arrow_function" :: functionKinds → n.span.startByte < n.span.endByte))
    ⟨fun h => ⟨h.1, h.2⟩, fun h => ⟨h.callee, h.function⟩⟩

/-- The nodes stand in the text as in a tree without syntax errors, and lines and columns grow with the
bytes. -/
structure Placed (root : Node) : Prop where
  nest : root.AllNest
  filled : ∀ n ∈ root.preorder, Filled n
  forward : ∀ m ∈ root.preorder, ∀ n ∈ root.preorder,
    m.span.startByte < n.span.startByte → m.span.place < n.span.place

instance (root : Node) : Decidable (Placed root) :=
  decidable_of_iff
    ((∀ n ∈ root.preorder, n.Nests) ∧ (∀ n ∈ root.preorder, Filled n) ∧
      ∀ m ∈ root.preorder, ∀ n ∈ root.preorder,
        m.span.startByte < n.span.startByte → m.span.place < n.span.place)
    ⟨fun h => ⟨h.1, h.2.1, h.2.2⟩, fun h => ⟨h.nest, h.filled, h.forward⟩⟩

/-- The callee of every call stands in front of its arguments, where the grammars put it. -/
def CalleesFirst (root : Node) : Prop :=
  ∀ n ∈ root.preorder, n.kind = "call_expression" → ∀ callee ∈ n.childByField "function",
    ∀ list ∈ n.childByField "arguments", callee.span.endByte ≤ list.span.startByte

instance (root : Node) : Decidable (CalleesFirst root) :=
  inferInstanceAs (Decidable (∀ n ∈ root.preorder, n.kind = "call_expression" →
    ∀ callee ∈ n.childByField "function", ∀ list ∈ n.childByField "arguments",
      callee.span.endByte ≤ list.span.startByte))

theorem CalleesFirst.below {root n : Node} (order : CalleesFirst root) (inside : n ∈ root.preorder) :
    CalleesFirst n :=
  fun m deeper => order m (Node.preorder_trans inside deeper)

theorem CalleesFirst.child {root c : Node} (order : CalleesFirst root) (child : c ∈ root.children) :
    CalleesFirst c :=
  order.below (Node.mem_preorder_of_child child (Node.self_mem_preorder c))

theorem Placed.below {root n : Node} (placed : Placed root) (inside : n ∈ root.preorder) : Placed n where
  nest := placed.nest.below inside
  filled := fun m deeper => placed.filled m (Node.preorder_trans inside deeper)
  forward := fun m deeper k deeper' =>
    placed.forward m (Node.preorder_trans inside deeper) k (Node.preorder_trans inside deeper')

theorem Placed.child {root c : Node} (placed : Placed root) (child : c ∈ root.children) : Placed c :=
  placed.below (Node.mem_preorder_of_child child (Node.self_mem_preorder c))

theorem kind_strip_of_anonymous {n : Node} {kind : AnonymousKind}
    (anonymous : anonymousKind? (lower bytes n) = some kind) :
    n.strip.kind ∈ "arrow_function" :: functionKinds := by
  have shape := shape_lower bytes n
  generalize lower bytes n = e at anonymous shape
  cases shape with
  | identifier => cases anonymous
  | member => cases anonymous
  | subscript => cases anonymous
  | arrow isArrow => exact List.mem_cons.mpr (Or.inl isArrow)
  | function isFunction => exact List.mem_cons_of_mem _ isFunction
  | other => cases anonymous

/-- The parts of a call that is reported. -/
structure Parts (n : Node) (d : Diagnostic) (callee list first : Node) : Prop where
  kind : n.kind = "call_expression"
  function : n.childByField "function" = some callee
  arguments : n.childByField "arguments" = some list
  listKind : list.kind = "arguments"
  head : list.arguments.head? = some first
  firstKind : first.strip.kind ∈ "arrow_function" :: functionKinds
  span : d.span = first.strip.span

theorem parts_of_flagged {n : Node} {d : Diagnostic} (found : flagged? bytes hooks n = some d) :
    ∃ callee list first, Parts n d callee list first := by
  obtain ⟨call, lowered, detected⟩ := Option.bind_eq_some_iff.mp found
  obtain ⟨kind, callee, list, function, arguments, listKind, rfl⟩ :=
    (lowerCall?_eq_some_iff _ _ _).mp lowered
  obtain ⟨e, head, -, anonymous, span⟩ := (detect?_eq_some_iff _ _ _).mp detected
  rw [List.head?_map, Option.map_eq_some_iff] at head
  obtain ⟨first, head, rfl⟩ := head
  exact ⟨callee, list, first, kind, function, arguments, listKind, head,
    kind_strip_of_anonymous anonymous, span.trans (span_lower bytes first)⟩

theorem kind_of_flagged {n : Node} {d : Diagnostic} (found : flagged? bytes hooks n = some d) :
    n.kind = "call_expression" := by
  obtain ⟨callee, list, first, parts⟩ := parts_of_flagged found
  exact parts.kind

/-- In a node that is no call, a call is below a child. -/
theorem mem_child_of_flagged {n m : Node} {e : Diagnostic} (other : n.kind ≠ "call_expression")
    (inside : m ∈ n.preorder) (found : flagged? bytes hooks m = some e) :
    ∃ c ∈ n.children, m ∈ c.preorder := by
  rcases Node.mem_preorder_iff.mp inside with rfl | below
  · exact absurd (kind_of_flagged found) other
  · exact below

namespace Parts

variable {n callee list first : Node} {d : Diagnostic}

theorem list_child (parts : Parts n d callee list first) : list ∈ n.children :=
  Node.child_of_field parts.arguments

theorem first_child (parts : Parts n d callee list first) : first ∈ list.children :=
  Node.child_of_arguments_head? parts.head

theorem strip_mem_list (parts : Parts n d callee list first) : first.strip ∈ list.preorder :=
  Node.mem_preorder_of_child parts.first_child (Node.strip_mem_preorder first)

theorem strip_mem (parts : Parts n d callee list first) : first.strip ∈ n.preorder :=
  Node.mem_preorder_of_child parts.list_child parts.strip_mem_list

end Parts

/-- The report of a call stands inside the call, but not at its start, and takes some room. -/
theorem Placed.span_inside {n : Node} {d : Diagnostic} (placed : Placed n) (order : CalleesFirst n)
    (found : flagged? bytes hooks n = some d) :
    n.span.startByte < d.span.startByte ∧ d.span.startByte < d.span.endByte ∧
      d.span.endByte ≤ n.span.endByte := by
  obtain ⟨callee, list, first, parts⟩ := parts_of_flagged found
  have calleeInside := (placed.nest.self.within callee (Node.child_of_field parts.function)).1
  have self := Node.self_mem_preorder n
  have calleeRoom := (placed.filled n self).callee parts.kind callee parts.function
  have calleeFirst := order n self parts.kind callee parts.function list parts.arguments
  have inList := (placed.child parts.list_child).nest.within parts.strip_mem_list
  have inCall := placed.nest.within parts.strip_mem
  have room := (placed.filled _ parts.strip_mem).function parts.firstKind
  rw [parts.span]
  omega

/-- A function and a call below one node: they are below the same child, or they do not touch. -/
theorem Placed.same_child_or_apart {n c c' f m : Node} {e : Diagnostic} (placed : Placed n)
    (order : CalleesFirst n) (child : c ∈ n.children) (function : f ∈ c.preorder)
    (kind : f.kind ∈ "arrow_function" :: functionKinds) (child' : c' ∈ n.children)
    (inside : m ∈ c'.preorder) (found : flagged? bytes hooks m = some e) :
    m ∈ c.preorder ∨ m.span.endByte ≤ f.span.startByte ∨ f.span.startByte < e.span.startByte := by
  by_cases same : c' = c
  · exact Or.inl (same ▸ inside)
  · right
    have apart := placed.nest.apart child' child same inside function
    have room := ((placed.child child).filled f function).function kind
    have behind :=
      (((placed.child child').below inside).span_inside ((order.child child').below inside) found).1
    omega

/-- A call inside the parentheses around a function. -/
theorem Placed.before_or_behind_strip {first m : Node} {e : Diagnostic} (placed : Placed first)
    (order : CalleesFirst first) (kind : first.strip.kind ∈ "arrow_function" :: functionKinds)
    (inside : m ∈ first.preorder) (found : flagged? bytes hooks m = some e) :
    m.span.endByte ≤ first.strip.span.startByte ∨
      first.strip.span.startByte < e.span.startByte := by
  induction first using Node.strip_induction with
  | bare n bare =>
    have whole : n.strip = n := bare.elim Node.strip_of_kind Node.strip_of_empty
    have left := (placed.nest.within inside).1
    have behind := ((placed.below inside).span_inside (order.below inside) found).1
    rw [whole]
    omega
  | inside n c parenthesized inner ih =>
    rw [Node.strip_of_inner parenthesized inner] at kind ⊢
    have child := Node.child_of_arguments_head? inner
    have other : n.kind ≠ "call_expression" := by
      rw [parenthesized]
      decide
    obtain ⟨c', child', inside⟩ := mem_child_of_flagged other inside found
    rcases placed.same_child_or_apart order child (Node.strip_mem_preorder c) kind child' inside found with
      deeper | apart
    · exact ih (placed.child child) (order.child child) kind deeper
    · exact apart

/-- A call inside another one stands in front of the function of the other, or it is reported behind it. -/
theorem Placed.before_or_behind {n c m : Node} {d e : Diagnostic} (placed : Placed n)
    (order : CalleesFirst n) (outer : flagged? bytes hooks n = some d) (child : c ∈ n.children)
    (inside : m ∈ c.preorder) (inner : flagged? bytes hooks m = some e) :
    m.span.endByte ≤ d.span.startByte ∨ d.span.startByte < e.span.startByte := by
  obtain ⟨callee, list, first, parts⟩ := parts_of_flagged outer
  rw [parts.span]
  rcases placed.same_child_or_apart order parts.list_child parts.strip_mem_list parts.firstKind child
    inside inner with inList | apart
  · have other : list.kind ≠ "call_expression" := by
      rw [parts.listKind]
      decide
    obtain ⟨c', child', inside'⟩ := mem_child_of_flagged other inList inner
    have placedList := placed.child parts.list_child
    have orderList := order.child parts.list_child
    rcases placedList.same_child_or_apart orderList parts.first_child (Node.strip_mem_preorder first)
      parts.firstKind child' inside' inner with inFirst | apart
    · exact (placedList.child parts.first_child).before_or_behind_strip (orderList.child parts.first_child)
        parts.firstKind inFirst inner
    · exact apart
  · exact apart

/-- Of two calls, the later one in the walk is reported behind the earlier one, unless it is a part of it
and stands in front of its function. -/
theorem Placed.front_or_behind {root m n : Node} {a b : Address} {d e : Diagnostic} (placed : Placed root)
    (order : CalleesFirst root) (before : a < b) (here : root.at? a = some m) (there : root.at? b = some n)
    (first : flagged? bytes hooks m = some d) (second : flagged? bytes hooks n = some e) :
    (a <+: b ∧ n.span.endByte ≤ d.span.startByte) ∨ d.span.startByte < e.span.startByte := by
  induction a generalizing root b with
  | nil =>
    obtain rfl := Option.some.inj here
    cases b with
    | nil => exact absurd before (List.not_lt_nil [])
    | cons j b =>
      obtain ⟨c, child, below⟩ := Option.bind_eq_some_iff.mp there
      have inside := placed.before_or_behind order first (List.mem_of_getElem? child)
        (Node.mem_preorder_of_at? below) second
      exact inside.imp_left fun front => ⟨List.nil_prefix, front⟩
  | cons i a ih =>
    cases b with
    | nil => exact absurd before (List.not_lt_nil _)
    | cons j b =>
      obtain ⟨c, atI, belowI⟩ := Option.bind_eq_some_iff.mp here
      obtain ⟨c', atJ, belowJ⟩ := Option.bind_eq_some_iff.mp there
      have placedI := placed.child (List.mem_of_getElem? atI)
      have placedJ := placed.child (List.mem_of_getElem? atJ)
      have orderI := order.child (List.mem_of_getElem? atI)
      have orderJ := order.child (List.mem_of_getElem? atJ)
      rcases List.cons_lt_cons_iff.mp before with sibling | ⟨rfl, deeper⟩
      · right
        obtain ⟨hi, rfl⟩ := List.getElem?_eq_some_iff.mp atI
        obtain ⟨hj, rfl⟩ := List.getElem?_eq_some_iff.mp atJ
        have apart := List.pairwise_iff_getElem.mp placed.nest.self.apart i j hi hj sibling
        have insideI := Node.mem_preorder_of_at? belowI
        have insideJ := Node.mem_preorder_of_at? belowJ
        have left := (placedI.nest.within insideI).2
        have right := (placedJ.nest.within insideJ).1
        have spanI := (placedI.below insideI).span_inside (orderI.below insideI) first
        have spanJ := (placedJ.below insideJ).span_inside (orderJ.below insideJ) second
        omega
      · obtain rfl := Option.some.inj (atI.symm.trans atJ)
        have inside := ih placedI orderI deeper belowI belowJ
        exact inside.imp_left fun ⟨under, front⟩ => ⟨List.cons_prefix_cons.mpr ⟨rfl, under⟩, front⟩

theorem Placed.place_lt {root m n : Node} {d e : Diagnostic} (placed : Placed root)
    (here : m ∈ root.preorder) (there : n ∈ root.preorder) (first : flagged? bytes hooks m = some d)
    (second : flagged? bytes hooks n = some e) (before : d.span.startByte < e.span.startByte) :
    d.span.place < e.span.place := by
  obtain ⟨_, _, f, parts⟩ := parts_of_flagged first
  obtain ⟨_, _, g, parts'⟩ := parts_of_flagged second
  rw [parts.span, parts'.span] at before ⊢
  exact placed.forward _ (Node.preorder_trans here parts.strip_mem) _
    (Node.preorder_trans there parts'.strip_mem) before

/-- Of two calls, the later one in the walk is reported at the later place, unless it is a part of the
earlier one and stands in front of its function. -/
theorem Placed.place_lt_iff {root m n : Node} {a b : Address} {d e : Diagnostic} (placed : Placed root)
    (order : CalleesFirst root) (before : a < b) (here : root.at? a = some m) (there : root.at? b = some n)
    (first : flagged? bytes hooks m = some d) (second : flagged? bytes hooks n = some e) :
    d.span.place < e.span.place ↔ ¬ (a <+: b ∧ n.span.endByte ≤ d.span.startByte) := by
  have insideM := Node.mem_preorder_of_at? here
  have insideN := Node.mem_preorder_of_at? there
  constructor
  · intro forward front
    have inN := (placed.below insideN).span_inside (order.below insideN) second
    have back := placed.place_lt insideN insideM second first (by omega)
    exact lt_asymm forward back
  · intro apart
    have behind := (placed.front_or_behind order before here there first second).resolve_left apart
    exact placed.place_lt insideM insideN first second behind

/-- Different calls are reported at different places. -/
theorem Placed.place_ne {root m n : Node} {a b : Address} {d e : Diagnostic} (placed : Placed root)
    (order : CalleesFirst root) (other : a ≠ b) (here : root.at? a = some m) (there : root.at? b = some n)
    (first : flagged? bytes hooks m = some d) (second : flagged? bytes hooks n = some e) :
    d.span.place ≠ e.span.place := by
  wlog before : a < b generalizing a b m n d e
  · have after : b < a := lt_of_le_of_ne (not_lt.mp before) other.symm
    exact (this other.symm there here second first after).symm
  have insideM := Node.mem_preorder_of_at? here
  have insideN := Node.mem_preorder_of_at? there
  rcases placed.front_or_behind order before here there first second with ⟨-, front⟩ | behind
  · have inN := (placed.below insideN).span_inside (order.below insideN) second
    exact (placed.place_lt insideN insideM second first (by omega)).ne'
  · exact (placed.place_lt insideM insideN first second behind).ne

end HookLint.Hook
