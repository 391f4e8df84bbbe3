import HookLint.Hook.Rule
import HookLint.Proofs.Hook.Exactness
import Mathlib.Data.List.Basic

/-! What more tracked names change. A call that is flagged stays flagged, with the same report, and what
is added names one of the added hooks. -/
namespace HookLint.Hook

variable {hooks hooks' : List String}

theorem contains_of_subset (nested : ∀ h ∈ hooks, h ∈ hooks') {name : String}
    (tracked : hooks.contains name) : hooks'.contains name :=
  List.contains_iff_mem.mpr (nested name (List.contains_iff_mem.mp tracked))

theorem resolve?_restrict (nested : ∀ h ∈ hooks, h ∈ hooks') (e : Expression) :
    resolve? hooks e = (resolve? hooks' e).filter hooks.contains := by
  -- a callee has at most one name, and either list is only asked for it
  have one : ∀ name, (if hooks.contains name then some name else none) =
      (if hooks'.contains name then some name else none).filter hooks.contains := by
    intro name
    by_cases tracked : hooks.contains name = true
    · rw [if_pos tracked, if_pos (contains_of_subset nested tracked), Option.filter_some, if_pos tracked]
    · rw [if_neg tracked]
      split
      · rw [Option.filter_some, if_neg tracked]
      · rfl
  unfold resolve?
  split
  · rename_i id
    exact one id.name
  · rename_i object property _
    by_cases react : (object.name == namespaceName) = true
    · simp only [react, Bool.true_and]
      exact one property.name
    · simp only [react, Bool.false_and]
      rfl
  · rfl

theorem detect?_restrict (nested : ∀ h ∈ hooks, h ∈ hooks') (call : Call) :
    detect? hooks call = (detect? hooks' call).filter fun d => hooks.contains d.hook := by
  ext d
  simp only [Option.filter_eq_some_iff, detect?_eq_some_iff, resolve?_restrict nested]
  constructor
  · rintro ⟨first, head, ⟨resolved, tracked⟩, anonymous, span⟩
    exact ⟨⟨first, head, resolved, anonymous, span⟩, tracked⟩
  · rintro ⟨⟨first, head, resolved, anonymous, span⟩, tracked⟩
    exact ⟨first, head, ⟨resolved, tracked⟩, anonymous, span⟩

theorem tracked_of_detect? {call : Call} {d : Diagnostic} (found : detect? hooks call = some d) :
    d.hook ∈ hooks := by
  rw [detect?_restrict (fun _ tracked => tracked), Option.filter_eq_some_iff] at found
  exact List.contains_iff_mem.mp found.2

/-- Order and repetition of the names do not count. -/
theorem detect?_congr (same : ∀ h, h ∈ hooks ↔ h ∈ hooks') : detect? hooks = detect? hooks' := by
  have contains : ∀ name, hooks.contains name = hooks'.contains name := by
    intro name
    rw [Bool.eq_iff_iff, List.contains_iff_mem, List.contains_iff_mem, same]
  funext call
  simp only [detect?, resolve?, contains]

/-- The text of a finding about a hook. -/
def messageFor (hook : String) : String := messageFront ++ hook ++ messageBack

theorem message_eq (d : Diagnostic) : d.message = messageFor d.hook := rfl

theorem messageFor_injective : Function.Injective messageFor := by
  intro h h' same
  have chars := congrArg String.toList same
  simp only [messageFor, String.toList_append, List.append_cancel_left_eq,
    List.append_cancel_right_eq] at chars
  exact String.toList_inj.mp chars

/-- The finding is about the hook. Its text is all that tells. -/
def Finding.Names (g : Finding) (hook : String) : Prop := g.message = messageFor hook

instance (g : Finding) (hook : String) : Decidable (g.Names hook) :=
  inferInstanceAs (Decidable (g.message = messageFor hook))

theorem Finding.names_finding (d : Diagnostic) (file : Files.Path) (severity : Severity)
    (hook : String) : (d.finding file severity).Names hook ↔ hook = d.hook := by
  rw [Finding.Names, Diagnostic.finding, message_eq, messageFor_injective.eq_iff, eq_comm]

def Finding.relabel (severity : Severity) (g : Finding) : Finding := { g with severity := severity }

end HookLint.Hook
