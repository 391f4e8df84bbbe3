import HookLint.Proofs.Json.Members
import HookLint.Proofs.Json.RoundTrip
import Mathlib.Data.List.Nodup

/-! Objects with exactly the fields that are asked for. -/
namespace HookLint.Json

theorem insert_perm {key : String} {ms : Members} (new : key ∉ ms.map Prod.fst) (v : Value) :
    (insert key v ms).Perm ((key, v) :: ms) := by
  induction ms with
  | nil => exact .refl _
  | cons m ms ih =>
    obtain ⟨k, w⟩ := m
    simp only [List.map_cons, List.mem_cons, not_or] at new
    obtain ⟨other, later⟩ := new
    rw [insert, if_neg other]
    split
    · exact .refl _
    · exact ((ih later).cons (k, w)).trans (.swap (key, v) (k, w) ms)

/-- Members with different keys are all kept. -/
theorem filedMembers_perm {done ms : Members} (distinct : ((done ++ ms).map Prod.fst).Nodup) :
    (filedMembers done ms).Perm (done ++ ms.map fun m => (m.1, m.2.filed)) := by
  induction ms generalizing done with
  | nil => simp [filedMembers]
  | cons m ms ih =>
    obtain ⟨key, v⟩ := m
    simp only [List.map_append, List.map_cons] at distinct ⊢
    have apart : key ∉ done.map Prod.fst ++ ms.map Prod.fst :=
      (List.nodup_cons.mp (List.nodup_middle.mp distinct)).1
    have new : key ∉ done.map Prod.fst := fun member => apart (List.mem_append_left _ member)
    have placed : (insert key v.filed done).Perm ((key, v.filed) :: done) := insert_perm new v.filed
    have keys : ((insert key v.filed done ++ ms).map Prod.fst).Nodup := by
      have moved : ((insert key v.filed done).map Prod.fst ++ ms.map Prod.fst).Perm
          (done.map Prod.fst ++ key :: ms.map Prod.fst) :=
        ((placed.map Prod.fst).append_right _).trans List.perm_middle.symm
      rw [List.map_append]
      exact moved.nodup_iff.mpr distinct
    exact (ih keys).trans ((placed.append_right _).trans List.perm_middle.symm)

theorem lookup_of_mem {ms : Members} (distinct : (ms.map Prod.fst).Nodup) {key : String} {v : Value}
    (member : (key, v) ∈ ms) : lookup key ms = some v := by
  induction ms with
  | nil => exact absurd member List.not_mem_nil
  | cons m ms ih =>
    obtain ⟨k, w⟩ := m
    obtain ⟨new, rest⟩ := List.nodup_cons.mp distinct
    rcases List.mem_cons.mp member with same | later
    · cases same
      rw [lookup, if_pos rfl]
    · have other : key ≠ k := by
        rintro rfl
        exact new (List.mem_map.mpr ⟨(key, v), later, rfl⟩)
      rw [lookup, if_neg other]
      exact ih rest later

theorem mapM_eq_some {α β : Type} {f : α → Option β} {g : α → β} {as : List α}
    (each : ∀ a ∈ as, f a = some (g a)) : as.mapM f = some (as.map g) := by
  induction as with
  | nil => rfl
  | cons a as ih =>
    obtain ⟨first, others⟩ := List.forall_mem_cons.mp each
    rw [List.mapM_cons, first, ih others]
    rfl

/-- The values of the fields that are asked for, in their order, of an object that has these fields and no
others. -/
def Value.fields? (keys : List String) : Value → Option (List Value)
  | .object members => if (members.map Prod.fst).Perm keys then keys.mapM fun k => lookup k members else none
  | _ => none

theorem fields?_filed {ms : Members} {keys : List String} (same : ms.map Prod.fst = keys)
    (distinct : keys.Nodup) : (Value.object ms).filed.fields? keys = some (ms.map fun m => m.2.filed) := by
  subst same
  have perm : (filedMembers [] ms).Perm (ms.map fun m => (m.1, m.2.filed)) := filedMembers_perm distinct
  have kept : ((filedMembers [] ms).map Prod.fst).Perm (ms.map Prod.fst) := by
    simpa [Function.comp_def] using perm.map Prod.fst
  have found : ∀ m ∈ ms, lookup m.1 (filedMembers [] ms) = some m.2.filed := by
    intro m member
    refine lookup_of_mem (kept.nodup_iff.mpr distinct) ?_
    exact perm.mem_iff.mpr (List.mem_map.mpr ⟨m, member, rfl⟩)
  rw [Value.filed, Value.fields?, if_pos kept, List.mapM_map]
  exact mapM_eq_some found

theorem mapM_filedItems {α : Type} {write : α → Value} {read : Value → Option α}
    (each : ∀ a, read (write a).filed = some a) (as : List α) :
    (filedItems (as.map write)).mapM read = some as := by
  have all : as.mapM (fun a => read (write a).filed) = some (as.map id) :=
    mapM_eq_some fun a _ => each a
  rw [filedItems_eq_map, List.map_map, List.mapM_map]
  simpa [Function.comp_def] using all

end HookLint.Json
