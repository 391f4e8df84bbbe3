import HookLint.Tree.Node

/-!
A walk through a tree by small moves: down to the first child, on to the next sibling, up to the parent.
A walker remembers what is right of it and of each of its ancestors, so that every move is a look at one
list. The walk ends because each move leaves fewer nodes ahead.
-/
namespace HookLint.Tree

structure Walker where
  node : Node
  /-- The siblings to the right, the nearest first. -/
  right : List Node
  /-- The ancestors, the nearest first, each with the siblings to its right. -/
  above : List (Node × List Node)

namespace Walker

def start (root : Node) : Walker := ⟨root, [], []⟩

def firstChild? (w : Walker) : Option Walker :=
  match w.node.children with
  | [] => none
  | c :: cs => some ⟨c, cs, (w.node, w.right) :: w.above⟩

def nextSibling? (w : Walker) : Option Walker :=
  match w.right with
  | [] => none
  | n :: ns => some ⟨n, ns, w.above⟩

def parent? (w : Walker) : Option Walker :=
  match w.above with
  | [] => none
  | (n, right) :: above => some ⟨n, right, above⟩

/-- The next sibling, or that of the nearest ancestor that has one. -/
def leave? (right : List Node) : List (Node × List Node) → Option Walker
  | [] =>
    match right with
    | [] => none
    | n :: ns => some ⟨n, ns, []⟩
  | (p, ps) :: above =>
    match right with
    | [] => leave? ps above
    | n :: ns => some ⟨n, ns, (p, ps) :: above⟩

def sizeAbove : List (Node × List Node) → Nat
  | [] => 0
  | (_, right) :: above => Node.sizeAll right + sizeAbove above

/-- Nodes that are not behind the walker: its own subtree and all that is right of its path. -/
def ahead (w : Walker) : Nat := w.node.size + Node.sizeAll w.right + sizeAbove w.above

theorem size_eq (n : Node) : n.size = Node.sizeAll n.children + 1 := by
  cases n
  rfl

theorem ahead_firstChild {w c : Walker} (down : w.firstChild? = some c) : c.ahead < w.ahead := by
  unfold firstChild? at down
  split at down
  · simp at down
  · next n ns children =>
    have same := Option.some.inj down
    subst same
    simp only [ahead, sizeAbove, size_eq w.node, children, Node.sizeAll]
    omega

theorem ahead_leave {right : List Node} {above : List (Node × List Node)} {c : Walker}
    (on : leave? right above = some c) : c.ahead = Node.sizeAll right + sizeAbove above := by
  induction above generalizing right with
  | nil =>
    cases right with
    | nil => simp [leave?] at on
    | cons n ns =>
      have same := Option.some.inj on
      subst same
      simp [ahead, sizeAbove, Node.sizeAll]
  | cons a above ih =>
    cases right with
    | nil =>
      rw [ih on]
      simp [sizeAbove, Node.sizeAll]
    | cons n ns =>
      have same := Option.some.inj on
      subst same
      simp [ahead, sizeAbove, Node.sizeAll]

theorem size_pos (n : Node) : 0 < n.size := by
  rw [size_eq]
  omega

/-- The move of a walk in text order, a parent before its children. Below a node that `enter` refuses
nothing is visited. -/
def next? (enter : Node → Bool) (w : Walker) : Option Walker :=
  match if enter w.node then w.firstChild? else none with
  | some c => some c
  | none => leave? w.right w.above

theorem ahead_next {enter : Node → Bool} {w c : Walker} (on : w.next? enter = some c) :
    c.ahead < w.ahead := by
  unfold next? at on
  split at on
  · next child down =>
    have same := Option.some.inj on
    subst same
    split at down
    · exact ahead_firstChild down
    · simp at down
  · have same := ahead_leave on
    have positive := size_pos w.node
    unfold ahead at same ⊢
    omega

/-- Folds over the nodes from the walker on. -/
def fold {β : Type} (enter : Node → Bool) (visit : β → Node → β) (b : β) (w : Walker) : β :=
  match _ : w.next? enter with
  | some c => fold enter visit (visit b w.node) c
  | none => visit b w.node
termination_by w.ahead
decreasing_by exact ahead_next (by assumption)

end Walker

end HookLint.Tree
