import HookLint.Config.Step
import Mathlib.Data.List.TakeWhile

/-! The names of additional hooks. However a configuration came about, every one of them is an identifier:
names are added one by one, each is looked at, and a fault leaves those before it. -/
namespace HookLint

/-- A name that an additional hook may have. -/
abbrev IsHookName (name : String) : Prop := name ≠ "" ∧ isIdentifier name

/-- What is wrong with a name that is none, as the additional hook of a number. -/
def nameFault (index : Nat) (name : String) : ConfigFault :=
  if name = "" then .emptyHook index else .invalidHookName index name

theorem hookFault?_of_name {name : String} (ok : IsHookName name) (index : Nat) :
    hookFault? index name = none := by
  rw [hookFault?, if_neg ok.1, if_pos ok.2]

theorem hookFault?_of_other {name : String} (other : ¬ IsHookName name) (index : Nat) :
    hookFault? index name = some (nameFault index name) := by
  rw [hookFault?, nameFault]
  by_cases empty : name = ""
  · rw [if_pos empty, if_pos empty]
  · rw [if_neg empty, if_neg empty, if_neg fun ok => other ⟨empty, ok⟩]

namespace Config

def WellNamed (c : Config) : Prop := ∀ h ∈ c.additionalHooks, IsHookName h

theorem wellNamed_default : WellNamed {} := fun _ member => nomatch member

theorem addHooks_eq (c : Config) (names : List String) :
    c.addHooks names = { c with additionalHooks := c.additionalHooks ++ names } := by
  induction names generalizing c with
  | nil =>
    rw [List.append_nil]
    rfl
  | cons name names ih =>
    rw [addHooks, List.foldl_cons, ← addHooks, ih, addHook, List.append_assoc, List.singleton_append]

theorem extendHooks_append (c : Config) {good : List String} (ok : ∀ n ∈ good, IsHookName n)
    (rest : List String) : c.extendHooks (good ++ rest) = (c.addHooks good).extendHooks rest := by
  induction good generalizing c with
  | nil => rfl
  | cons name good ih =>
    have first := hookFault?_of_name (ok name List.mem_cons_self) c.additionalHooks.length
    rw [List.cons_append, extendHooks, first]
    exact ih (c.addHook name) fun n member => ok n (List.mem_cons_of_mem name member)

theorem extendHooks_of_names (c : Config) {names : List String} (ok : ∀ n ∈ names, IsHookName n) :
    c.extendHooks names = (c.addHooks names, none) := by
  have all := extendHooks_append c ok []
  rw [List.append_nil] at all
  exact all

/-- The names in front of the first bad one are added, and the fault counts them. -/
theorem extendHooks_of_bad (c : Config) {good : List String} (ok : ∀ n ∈ good, IsHookName n)
    {bad : String} (other : ¬ IsHookName bad) (rest : List String) :
    c.extendHooks (good ++ bad :: rest) =
      (c.addHooks good, some (nameFault (c.addHooks good).additionalHooks.length bad)) := by
  rw [extendHooks_append c ok, extendHooks, hookFault?_of_other other]

theorem takeWhile_names (names : List String) : ∀ n ∈ names.takeWhile (IsHookName ·), IsHookName n := by
  intro n member
  have kept := List.mem_takeWhile_imp member
  exact of_decide_eq_true kept

/-- Names are all good, or there is a first bad one behind the longest good front. -/
theorem names_cases (names : List String) :
    (∀ n ∈ names, IsHookName n) ∨
      ∃ bad rest, names = names.takeWhile (IsHookName ·) ++ bad :: rest ∧ ¬ IsHookName bad := by
  cases left : names.dropWhile (IsHookName ·) with
  | nil => exact Or.inl fun n member => of_decide_eq_true (List.dropWhile_eq_nil_iff.mp left n member)
  | cons bad rest =>
    refine Or.inr ⟨bad, rest, ?_, ?_⟩
    · rw [← left, List.takeWhile_append_dropWhile]
    · have stops := List.head?_dropWhile_not (fun n => decide (IsHookName n)) names
      rw [left, List.head?_cons] at stops
      exact of_decide_eq_false (by simpa using stops)

/-- An extension adds the longest good front, and when that is not all it reports the name behind it. -/
theorem extendHooks_cases (c : Config) (names : List String) :
    (∀ n ∈ names, IsHookName n) ∧ c.extendHooks names = (c.addHooks names, none) ∨
      ∃ bad rest, names = names.takeWhile (IsHookName ·) ++ bad :: rest ∧ ¬ IsHookName bad ∧
        c.extendHooks names = (c.addHooks (names.takeWhile (IsHookName ·)),
          some (nameFault (c.addHooks (names.takeWhile (IsHookName ·))).additionalHooks.length bad)) := by
  rcases names_cases names with ok | ⟨bad, rest, cut, other⟩
  · exact Or.inl ⟨ok, extendHooks_of_names c ok⟩
  · have stopped := extendHooks_of_bad c (takeWhile_names names) other rest
    rw [← cut] at stopped
    exact Or.inr ⟨bad, rest, cut, other, stopped⟩

theorem WellNamed.addHooks {c : Config} (well : c.WellNamed) {names : List String}
    (ok : ∀ n ∈ names, IsHookName n) : (c.addHooks names).WellNamed := by
  rw [addHooks_eq]
  intro h member
  exact (List.mem_append.mp member).elim (well h) (ok h)

theorem WellNamed.addHook {c : Config} (well : c.WellNamed) {name : String} (ok : IsHookName name) :
    (c.addHook name).WellNamed := by
  have added : (c.addHooks [name]).WellNamed := well.addHooks (List.forall_mem_singleton.mpr ok)
  exact added

theorem WellNamed.extendHooks {c : Config} (well : c.WellNamed) (names : List String) :
    (c.extendHooks names).1.WellNamed := by
  rcases extendHooks_cases c names with ⟨ok, added⟩ | ⟨bad, rest, -, -, stopped⟩
  · rw [added]
    exact well.addHooks ok
  · rw [stopped]
    exact well.addHooks (takeWhile_names names)

end Config

end HookLint
