import HookLint.Proofs.Tree.Walk
import HookLint.Tree.Fault

/-! The search for a syntax error. It enters only what is flagged and ends at the first fault that it comes
to. A flag stands on everything that a fault is in, so a search through the whole tree would end there
too. -/
namespace HookLint.Tree

/-- A property that passes from the next node of a walk to the node before it holds all along the walk. -/
@[elab_as_elim]
theorem Walker.inductionOnNext (enter : Node → Bool) {P : Walker → Prop}
    (step : ∀ w, (∀ c, w.next? enter = some c → P c) → P w) (w : Walker) : P w :=
  step w fun c _ => inductionOnNext enter step c
termination_by w.ahead
decreasing_by exact ahead_next (by assumption)

section Search

variable (enter p : Node → Bool)

theorem foldl_keepFirst (found : Option Node) (ns : List Node) :
    ns.foldl (keepFirst p) found = found.or (ns.find? p) := by
  induction ns generalizing found with
  | nil => exact Option.or_none.symm
  | cons n ns ih =>
    rw [List.foldl_cons, ih, List.find?_cons]
    cases found with
    | some f => rfl
    | none => cases here : p n <;> simp [keepFirst, here]

theorem Walker.resume_keepFirst (f : Node) (next : Option Walker) :
    resume enter (keepFirst p) (some f) next = some f := by
  cases next with
  | none => rfl
  | some w =>
    induction w using inductionOnNext enter with
    | step w ih =>
      rw [resume, fold_eq_resume, keepFirst]
      cases next : w.next? enter with
      | none => rfl
      | some c => exact ih c next

namespace Stage

/-- One turn of the loops of a search. They are the loops of a walk, but end at the first node that is looked
for. -/
def seek : Stage (Option Node) → Stage (Option Node)
  | coming w b => if p w.node then done (some w.node) else move enter (keepFirst p) (coming w b)
  | s => move enter (keepFirst p) s

/-- The loops of a search end, and they leave what a walk to the end would keep. -/
theorem seek_to_done (w : Walker) :
    ∃ moves, (seek enter p)^[moves] (coming w none) = done (w.fold enter (keepFirst p) none) := by
  have same : ∀ w b, seek enter p (leaving w b) = move enter (keepFirst p) (leaving w b) := fun _ _ => rfl
  induction w using Walker.inductionOnNext enter with
  | step w ih =>
    rw [Walker.fold_eq_resume]
    by_cases hit : p w.node = true
    · have kept : keepFirst p none w.node = some w.node := if_pos hit
      refine ⟨1, ?_⟩
      rw [kept, Walker.resume_keepFirst, Function.iterate_one, seek, if_pos hit]
    · have missed : keepFirst p none w.node = none := if_neg hit
      obtain ⟨first, reaches⟩ := coming_moves enter (keepFirst p) same none (if_neg hit)
      rw [missed] at reaches ⊢
      cases next : w.next? enter with
      | none =>
        rw [next] at reaches
        exact ⟨first, reaches⟩
      | some c =>
        obtain ⟨others, ends⟩ := ih c next
        refine ⟨others + first, ?_⟩
        rw [Function.iterate_add_apply, reaches, next]
        exact ends

end Stage

end Search

namespace Node

/-- The node and everything that a fault stands in is flagged. More may be flagged. -/
def FlagsFaults (root : Node) : Prop := ∀ n ∈ root.preorder, ∀ m ∈ n.preorder, m.isFault → n.hasError

instance (root : Node) : Decidable root.FlagsFaults :=
  inferInstanceAs (Decidable (∀ n ∈ root.preorder, ∀ m ∈ n.preorder, m.isFault → n.hasError))

theorem FlagsFaults.child {n c : Node} (flags : n.FlagsFaults) (child : c ∈ n.children) : c.FlagsFaults :=
  fun m below => flags m (mem_preorder_of_child child below)

theorem FlagsFaults.sound {root : Node} (flags : root.FlagsFaults) (unflagged : root.hasError = false) :
    ∀ n ∈ root.preorder, n.isFault = false := by
  intro n inside
  cases fault : n.isFault with
  | false => rfl
  | true =>
    have flagged := flags root (self_mem_preorder root) n inside fault
    rw [unflagged] at flagged
    cases flagged

/-- A walk that enters only what is flagged misses no fault. -/
theorem FlagsFaults.filter_reached {root : Node} (flags : root.FlagsFaults) :
    (root.reached hasError).filter isFault = root.preorder.filter isFault := by
  induction root using inductionOnChildren with
  | step i cs ih =>
    by_cases flagged : (mk i cs).hasError = true
    · have below : cs.flatMap (fun c => (c.reached hasError).filter isFault) =
          cs.flatMap fun c => c.preorder.filter isFault :=
        List.flatMap_congr fun c child => ih c child (flags.child child)
      simp only [reached, if_pos flagged, preorder, reachedAll_eq_flatMap, preorderAll_eq_flatMap,
        List.filter_cons, List.filter_flatMap, below]
    · -- nothing is seen below the node, and there is nothing to see
      have sound := flags.sound (Bool.eq_false_iff.mpr flagged)
      have none : (mk i cs).preorder.filter isFault = [] :=
        List.filter_eq_nil_iff.mpr fun n inside => Bool.eq_false_iff.mp (sound n inside)
      rw [none, reached, if_neg flagged, List.filter_eq_nil_iff]
      intro n here
      rw [List.mem_singleton.mp here]
      exact Bool.eq_false_iff.mp (sound _ (self_mem_preorder _))

theorem flaggedFault?_eq {root : Node} (flags : root.FlagsFaults) :
    root.flaggedFault? = root.preorder.find? isFault := by
  rw [flaggedFault?, Walker.fold_start, foldl_keepFirst, Option.none_or, ← List.head?_filter,
    flags.filter_reached, List.head?_filter]

theorem firstFault?_eq_none_iff {root : Node} : root.firstFault? = none ↔ root.hasError = false := by
  rw [firstFault?]
  cases root.hasError <;> simp

/-- The loops of the search end. A tree that is not flagged has no fault and no error; in a flagged one the
error stands where the first fault of the whole tree does, or at the start of the tree when it has none. -/
theorem firstFault?_exact {root : Node} (flags : root.FlagsFaults) :
    (∃ moves, (Stage.seek hasError isFault)^[moves] (.coming (Walker.start root) none) =
        .done root.flaggedFault?) ∧
      (root.firstFault? = none ↔ root.hasError = false) ∧
      (root.firstFault? = none → ∀ n ∈ root.preorder, n.isFault = false) ∧
      (∀ n, root.preorder.find? isFault = some n → root.firstFault? = some n.span.position) ∧
      (root.hasError = true → (∀ n ∈ root.preorder, n.isFault = false) →
        root.firstFault? = some root.span.position) := by
  refine ⟨Stage.seek_to_done hasError isFault _, firstFault?_eq_none_iff, ?_, ?_, ?_⟩
  · exact fun clear => flags.sound (firstFault?_eq_none_iff.mp clear)
  · intro n first
    have flagged : root.hasError = true :=
      flags root (self_mem_preorder root) n (List.mem_of_find?_eq_some first) (List.find?_some first)
    rw [firstFault?, if_pos flagged, flaggedFault?_eq flags, first, Option.getD_some]
  · intro flagged clear
    have nothing : root.preorder.find? isFault = none :=
      List.find?_eq_none.mpr fun n inside => Bool.eq_false_iff.mp (clear n inside)
    rw [firstFault?, if_pos flagged, flaggedFault?_eq flags, nothing, Option.getD_none]

/-- A node of one byte, flagged. -/
def suspect (kind : String) (line column : Nat) (cs : List Node) : Node :=
  .mk { kind, named := true, hasError := true, span := ⟨0, 1, line, column⟩ } cs

def missingToken (kind : String) (line column : Nat) : Node :=
  .mk { kind, named := false, isMissing := true, hasError := true, span := ⟨0, 0, line, column⟩ } []

/-- A statement that is flagged and shows no fault, a call that lacks its bracket, and an error. -/
def brokenTree : Node :=
  suspect "program" 1 1 [
    suspect "expression_statement" 1 1 [.mk { kind := "number", named := true, span := ⟨0, 1, 1, 1⟩ } []],
    suspect "call_expression" 2 1 [
      .mk { kind := "identifier", named := true, field := some "function", span := ⟨2, 3, 2, 1⟩ } [],
      suspect "arguments" 2 2 [missingToken ")" 2 3]],
    .mk { kind := "ERROR", named := true, isError := true, hasError := true, span := ⟨5, 6, 3, 1⟩ } []]

theorem firstFault?_brokenTree :
    brokenTree.FlagsFaults ∧ brokenTree.firstFault? = some ⟨2, 3⟩ ∧
      (suspect "program" 1 4 []).FlagsFaults ∧ (suspect "program" 1 4 []).firstFault? = some ⟨1, 4⟩ := by
  have flags : brokenTree.FlagsFaults := by decide
  have flags' : (suspect "program" 1 4 []).FlagsFaults := by decide
  obtain ⟨-, -, -, stands, -⟩ := firstFault?_exact flags
  obtain ⟨-, -, -, -, start⟩ := firstFault?_exact flags'
  exact ⟨flags, stands (missingToken ")" 2 3) rfl, flags', start rfl (by decide)⟩

end Node

end HookLint.Tree
