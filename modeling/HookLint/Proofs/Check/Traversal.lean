import HookLint.Check.Visitor
import HookLint.Proofs.Tree.Walk

/-! What a visitor has seen after a tree. Every call of the tree is counted and gives what it gives
alone: the visitor collects, it does not remember. -/
namespace HookLint.Check

open HookLint.Hook HookLint.Tree

def Checker.finding? (k : Checker) (file : Files.Path) (ignored : List Nat) (call : Call) :
    Option Finding :=
  match detect? k.hooks call with
  | some d => if d.span.line ∈ ignored then none else some (d.finding file k.severity)
  | none => none

def Checker.passedOver? (k : Checker) (ignored : List Nat) (call : Call) : Option Nat :=
  match detect? k.hooks call with
  | some d => if d.span.line ∈ ignored then some d.span.line else none
  | none => none

theorem Checker.finding?_eq_some_iff {k : Checker} {file : Files.Path} {ignored : List Nat} {call : Call}
    {g : Finding} :
    k.finding? file ignored call = some g ↔
      ∃ d, detect? k.hooks call = some d ∧ d.span.line ∉ ignored ∧ g = d.finding file k.severity := by
  unfold Checker.finding?
  cases detect? k.hooks call with
  | none => simp
  | some d =>
    by_cases line : d.span.line ∈ ignored
    · simp [line]
    · simp [line, eq_comm]

namespace Visitor

def after (k : Checker) (v : Visitor) (calls : List Call) : Visitor :=
  { v with
    calls := v.calls + calls.length
    findings := v.findings ++ calls.filterMap (k.finding? v.file v.ignored)
    suppressed := v.suppressed ++ calls.filterMap (k.passedOver? v.ignored) }

theorem after_nil (k : Checker) (v : Visitor) : v.after k [] = v := by
  simp [after]

theorem after_append (k : Checker) (v : Visitor) (cs ds : List Call) :
    v.after k (cs ++ ds) = (v.after k cs).after k ds := by
  simp [after, List.append_assoc, Nat.add_assoc]

theorem visitCall_eq_after (k : Checker) (v : Visitor) (call : Call) :
    v.visitCall k call = v.after k [call] := by
  unfold visitCall after
  cases found : detect? k.hooks call with
  | none => simp [Checker.finding?, Checker.passedOver?, found]
  | some d =>
    by_cases ignored : d.span.line ∈ v.ignored
    · simp [report, Checker.finding?, Checker.passedOver?, found, ignored]
    · simp [report, Checker.finding?, Checker.passedOver?, found, ignored]

theorem visitNode_eq_after (k : Checker) (bytes : ByteArray) (v : Visitor) (n : Node) :
    v.visitNode k bytes n = v.after k (lowerCall? bytes n).toList := by
  unfold visitNode
  cases lowerCall? bytes n with
  | none => exact (after_nil k v).symm
  | some call => exact visitCall_eq_after k v call

theorem foldl_visitNode (k : Checker) (bytes : ByteArray) (v : Visitor) (ns : List Node) :
    ns.foldl (visitNode k bytes) v = v.after k (ns.filterMap (lowerCall? bytes)) := by
  induction ns generalizing v with
  | nil => exact (after_nil k v).symm
  | cons n ns ih =>
    rw [List.foldl_cons, ih, visitNode_eq_after, ← after_append]
    cases here : lowerCall? bytes n with
    | none => rw [List.filterMap_cons_none here, Option.toList_none, List.nil_append]
    | some call => rw [List.filterMap_cons_some here, Option.toList_some, List.singleton_append]

theorem visitTree_eq_after (k : Checker) (bytes : ByteArray) (v : Visitor) (root : Node) :
    v.visitTree k bytes root = v.after k (root.preorder.filterMap (lowerCall? bytes)) := by
  rw [visitTree, Walker.fold_start, Node.reached_true, foldl_visitNode]

/-- The loops over a cursor end, and then every node has been visited, at each address once and in the
order of the addresses. The calls among them are counted, and each of them gives its own finding. -/
theorem visitTree_visits_all (k : Checker) (bytes : ByteArray) (v : Visitor) (root : Node) :
    (∃ moves, (Stage.move (fun _ => true) (visitNode k bytes))^[moves]
        (.coming (Walker.start root) v) = .done (v.visitTree k bytes root)) ∧
      v.visitTree k bytes root = root.preorder.foldl (visitNode k bytes) v ∧
      v.visitTree k bytes root =
        { v with
          calls := v.calls + root.preorder.countP fun n => (lowerCall? bytes n).isSome
          findings := v.findings ++
            (root.preorder.filterMap (lowerCall? bytes)).filterMap (k.finding? v.file v.ignored)
          suppressed := v.suppressed ++
            (root.preorder.filterMap (lowerCall? bytes)).filterMap (k.passedOver? v.ignored) } ∧
      root.preorder.map some = root.addresses.map root.at? ∧
      root.addresses.Pairwise (· < ·) ∧
      ∀ a, a ∈ root.addresses ↔ (root.at? a).isSome := by
  refine ⟨Stage.moves_to_done _ _ v _, ?_, ?_, (Node.map_at?_addresses root).symm,
    Node.addresses_increasing root, Node.mem_addresses_iff root⟩
  · rw [visitTree, Walker.fold_start, Node.reached_true]
  · rw [visitTree_eq_after, after, List.length_filterMap_eq_countP]

end Visitor

end HookLint.Check
