import HookLint.Proofs.Tree.Preorder
import Mathlib.Logic.Function.Iterate

/-! A walk by small moves visits what the preorder lists. The walk is taken apart twice: into single
moves of a cursor, which ends after finitely many of them, and into the subtrees that it passes. -/
namespace HookLint.Tree

namespace Node

mutual

/-- The preorder, but nothing below a node that `enter` refuses. -/
def reached (enter : Node → Bool) : Node → List Node
  | mk i cs => mk i cs :: if enter (mk i cs) then reachedAll enter cs else []

def reachedAll (enter : Node → Bool) : List Node → List Node
  | [] => []
  | c :: cs => c.reached enter ++ reachedAll enter cs

end

theorem reachedAll_eq_flatMap (enter : Node → Bool) (cs : List Node) :
    reachedAll enter cs = cs.flatMap (reached enter) := by
  induction cs with
  | nil => rfl
  | cons c cs ih => simp [reachedAll, ih]

theorem reached_true (n : Node) : n.reached (fun _ => true) = n.preorder := by
  induction n using inductionOnChildren with
  | step i cs ih =>
    simp only [reached, preorder, reachedAll_eq_flatMap, preorderAll_eq_flatMap, if_true]
    rw [List.flatMap_congr ih]

end Node

namespace Walker

variable {β : Type}

theorem fold_of_next {enter : Node → Bool} {w c : Walker} (next : w.next? enter = some c)
    (visit : β → Node → β) (b : β) :
    w.fold enter visit b = c.fold enter visit (visit b w.node) := by
  rw [fold]
  split
  · rename_i d hd
    rw [next] at hd
    cases hd
    rfl
  · rename_i stop
    rw [next] at stop
    cases stop

theorem fold_of_end {enter : Node → Bool} {w : Walker} (stop : w.next? enter = none)
    (visit : β → Node → β) (b : β) : w.fold enter visit b = visit b w.node := by
  rw [fold]
  split
  · rename_i d hd
    rw [stop] at hd
    cases hd
  · rfl

/-- The walk from the next node on, if there is one. -/
def resume (enter : Node → Bool) (visit : β → Node → β) (b : β) : Option Walker → β
  | some w => w.fold enter visit b
  | none => b

theorem fold_eq_resume (enter : Node → Bool) (visit : β → Node → β) (b : β) (w : Walker) :
    w.fold enter visit b = resume enter visit (visit b w.node) (w.next? enter) := by
  cases next : w.next? enter with
  | some c => exact fold_of_next next visit b
  | none => exact fold_of_end next visit b

theorem leave?_cons (s : Node) (ss : List Node) (above : List (Node × List Node)) :
    leave? (s :: ss) above = some ⟨s, ss, above⟩ := by
  cases above <;> rfl

/-- A walk through a row of siblings, when it is known how it passes each of them. -/
theorem fold_siblings (enter : Node → Bool) (visit : β → Node → β) (c : Node) (cs : List Node)
    (each : ∀ n ∈ c :: cs, ∀ right above b, fold enter visit b ⟨n, right, above⟩ =
      resume enter visit ((n.reached enter).foldl visit b) (leave? right above))
    (above : List (Node × List Node)) (b : β) :
    fold enter visit b ⟨c, cs, above⟩ =
      resume enter visit ((Node.reachedAll enter (c :: cs)).foldl visit b) (leave? [] above) := by
  induction cs generalizing c b with
  | nil => simp [each c, Node.reachedAll]
  | cons d ds ih =>
    have rest := ih d (fun n hn => each n (List.mem_cons_of_mem _ hn))
      ((c.reached enter).foldl visit b)
    rw [each c (List.mem_cons_self ..), leave?_cons, resume, rest]
    simp only [Node.reachedAll, List.foldl_append]

/-- A walk passes a subtree node by node in preorder, and leaves it to the right. -/
theorem fold_subtree (enter : Node → Bool) (visit : β → Node → β) (n : Node) (right : List Node)
    (above : List (Node × List Node)) (b : β) :
    fold enter visit b ⟨n, right, above⟩ =
      resume enter visit ((n.reached enter).foldl visit b) (leave? right above) := by
  induction n using Node.inductionOnChildren generalizing right above b with
  | step i cs ih =>
    rw [fold_eq_resume]
    by_cases down : enter (.mk i cs) = true
    · cases cs with
      | nil => simp [next?, firstChild?, Node.children, Node.reached, Node.reachedAll]
      | cons c cs =>
        have next : next? enter ⟨.mk i (c :: cs), right, above⟩ =
            some ⟨c, cs, (.mk i (c :: cs), right) :: above⟩ := by
          simp [next?, firstChild?, Node.children, down]
        rw [next, resume, fold_siblings enter visit c cs ih, Node.reached, if_pos down]
        rfl
    · simp [next?, Node.reached, down]

theorem fold_start (enter : Node → Bool) (visit : β → Node → β) (root : Node) (b : β) :
    (start root).fold enter visit b = (root.reached enter).foldl visit b :=
  fold_subtree enter visit root [] [] b

end Walker

/-- Where a cursor stands: at a node that it comes to, at one that it is done with, or at its end. -/
inductive Stage (β : Type) where
  | coming (w : Walker) (b : β)
  | leaving (w : Walker) (b : β)
  | done (b : β)

namespace Stage

variable {β : Type}

/-- One turn of the loops. A node that the cursor comes to is visited; then the cursor goes down if it
can. One that is done with gives way to its next sibling, or to its parent, which then is done with. -/
def move (enter : Node → Bool) (visit : β → Node → β) : Stage β → Stage β
  | coming w b =>
    match if enter w.node then w.firstChild? else none with
    | some c => coming c (visit b w.node)
    | none => leaving w (visit b w.node)
  | leaving w b =>
    match w.nextSibling? with
    | some s => coming s b
    | none =>
      match w.parent? with
      | some p => leaving p b
      | none => done b
  | done b => done b

/-- Where a cursor comes to next, if there is anything left. -/
def ofNext (b : β) : Option Walker → Stage β
  | some w => coming w b
  | none => done b

section Turns

/- Loops that do the same at a node that they are done with, and at one that they come to. They may do
something else elsewhere. -/
variable (enter : Node → Bool) (visit : β → Node → β) {turn : Stage β → Stage β}
  (same : ∀ w b, turn (leaving w b) = move enter visit (leaving w b))

include same

/-- The inner loop finds the next node of the walk. -/
theorem leaving_moves (b : β) (n : Node) (right : List Node) (above : List (Node × List Node)) :
    ∃ moves, turn^[moves] (leaving ⟨n, right, above⟩ b) = ofNext b (Walker.leave? right above) := by
  induction above generalizing n right with
  | nil =>
    cases right with
    | nil => exact ⟨1, same _ b⟩
    | cons s ss => exact ⟨1, same _ b⟩
  | cons p above ih =>
    cases right with
    | nil =>
      obtain ⟨moves, reaches⟩ := ih p.1 p.2
      exact ⟨moves + 1, by rw [Function.iterate_succ_apply, same]; exact reaches⟩
    | cons s ss => exact ⟨1, same _ b⟩

/-- One turn of the outer loop: a visit, and all moves up to the next node of the walk. -/
theorem coming_moves (b : β) {w : Walker} (here : turn (coming w b) = move enter visit (coming w b)) :
    ∃ moves, turn^[moves] (coming w b) = ofNext (visit b w.node) (w.next? enter) := by
  cases down : if enter w.node then w.firstChild? else none with
  | some c =>
    refine ⟨1, ?_⟩
    simp only [Function.iterate_one, here, move, Walker.next?, down, ofNext]
  | none =>
    obtain ⟨moves, reaches⟩ :=
      leaving_moves enter visit same (visit b w.node) w.node w.right w.above
    refine ⟨moves + 1, ?_⟩
    simp only [Function.iterate_succ_apply, here, move, Walker.next?, down]
    exact reaches

end Turns

/-- The loops end, and they leave what the walk folds. -/
theorem moves_to_done (enter : Node → Bool) (visit : β → Node → β) (b : β) (w : Walker) :
    ∃ moves, (move enter visit)^[moves] (coming w b) = done (w.fold enter visit b) := by
  induction b, w using Walker.fold.induct enter visit with
  | case1 b w c next ih =>
    obtain ⟨first, reaches⟩ := coming_moves enter visit (fun _ _ => rfl) b (w := w) rfl
    obtain ⟨others, ends⟩ := ih
    refine ⟨others + first, ?_⟩
    rw [Function.iterate_add_apply, reaches, next, ofNext, ends, Walker.fold_of_next next]
  | case2 b w stop =>
    obtain ⟨moves, reaches⟩ := coming_moves enter visit (fun _ _ => rfl) b (w := w) rfl
    refine ⟨moves, ?_⟩
    rw [reaches, stop, ofNext, Walker.fold_of_end stop]

end Stage

end HookLint.Tree
