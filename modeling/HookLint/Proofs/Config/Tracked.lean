import HookLint.Proofs.Config.Names
import HookLint.Proofs.Hook.Exactness

/-! The tracked names. They are the usual ones and behind them the additional ones that are new, each where it
first comes, so what is added later stands at the end. -/
namespace HookLint

/-- The names of a list, each once, in the order in which they first come. -/
structure FirstOccurrences (names firsts : List String) : Prop where
  mem_iff : ∀ n, n ∈ firsts ↔ n ∈ names
  order : firsts.Pairwise fun a b => names.idxOf a < names.idxOf b

namespace FirstOccurrences

variable {names firsts : List String}

theorem nodup (first : FirstOccurrences names firsts) : firsts.Nodup :=
  first.order.imp fun before same => absurd (same ▸ before) (Nat.lt_irrefl _)

/-- There is one list of this kind. -/
theorem unique {others : List String} (first : FirstOccurrences names firsts)
    (other : FirstOccurrences names others) : firsts = others := by
  have same : firsts.Perm others := by
    refine (List.perm_ext_iff_of_nodup first.nodup other.nodup).mpr ?_
    intro n
    rw [first.mem_iff, other.mem_iff]
  refine same.eq_of_pairwise ?_ first.order other.order
  intro a b _ _ before after
  omega

theorem nil : FirstOccurrences [] [] := ⟨fun _ => Iff.rfl, .nil⟩

/-- A list without repetitions is its own. -/
theorem of_nodup (nodup : names.Nodup) : FirstOccurrences names names := by
  refine ⟨fun _ => Iff.rfl, List.pairwise_iff_getElem.mpr ?_⟩
  intro i j hi hj before
  rw [nodup.idxOf_getElem i hi, nodup.idxOf_getElem j hj]
  exact before

/-- What is left out of a list does not change the order of the rest. -/
theorem idxOf_lt_of_filter {p : String → Bool} {a b : String} (here : p a) (there : p b)
    (before : (names.filter p).idxOf a < (names.filter p).idxOf b) : names.idxOf a < names.idxOf b := by
  induction names with
  | nil => simp at before
  | cons n names ih => grind

theorem cons {n : String} (first : FirstOccurrences (names.filter (· ≠ n)) firsts) :
    FirstOccurrences (n :: names) (n :: firsts) := by
  have other : ∀ a ∈ firsts, a ≠ n := by
    intro a member
    have kept := (first.mem_iff a).mp member
    simpa using (List.mem_filter.mp kept).2
  constructor
  · intro a
    by_cases same : a = n
    · simp [same]
    · simp [same, first.mem_iff]
  · refine List.pairwise_cons.mpr ⟨?_, first.order.imp_of_mem ?_⟩
    · intro a member
      simp [(other a member).symm]
    · intro a b ha hb before
      have inside := idxOf_lt_of_filter (by simpa using other a ha) (by simpa using other b hb) before
      simpa [(other a ha).symm, (other b hb).symm] using inside

end FirstOccurrences

namespace Config

theorem addNew_append (known a b : List String) : addNew known (a ++ b) = addNew (addNew known a) b := by
  induction a generalizing known with
  | nil => rfl
  | cons name a ih => exact ih _

/-- Names are appended: those that are not known, each where it first comes. -/
theorem addNew_eq_append (known names : List String) :
    ∃ new, addNew known names = known ++ new ∧ FirstOccurrences (names.filter (· ∉ known)) new := by
  induction names generalizing known with
  | nil => exact ⟨[], (List.append_nil known).symm, .nil⟩
  | cons name names ih =>
    rw [addNew]
    by_cases old : name ∈ known
    · obtain ⟨new, added, first⟩ := ih known
      refine ⟨new, ?_, ?_⟩
      · simpa [old] using added
      · simpa [old] using first
    · obtain ⟨new, added, first⟩ := ih (known ++ [name])
      refine ⟨name :: new, ?_, ?_⟩
      · simpa [old] using added
      · have rest : names.filter (· ∉ known ++ [name]) =
            (names.filter (· ∉ known)).filter (· ≠ name) := by
          rw [List.filter_filter]
          refine List.filter_congr ?_
          intro n _
          simp [and_comm]
        rw [rest] at first
        simpa [old] using first.cons

/-- The additional names that are tracked stand behind the usual ones. -/
theorem hooks_eq_append (c : Config) :
    ∃ others, c.hooks = defaultHooks ++ others ∧
      FirstOccurrences (c.additionalHooks.filter (· ∉ defaultHooks)) others :=
  addNew_eq_append defaultHooks c.additionalHooks

theorem mem_hooks_iff {c : Config} {name : String} :
    name ∈ c.hooks ↔ name ∈ defaultHooks ∨ name ∈ c.additionalHooks := by
  obtain ⟨others, whole, first⟩ := hooks_eq_append c
  rw [whole, List.mem_append, first.mem_iff, List.mem_filter]
  by_cases usual : name ∈ defaultHooks <;> simp [usual]

theorem nodup_hooks (c : Config) : c.hooks.Nodup := by
  obtain ⟨others, whole, first⟩ := hooks_eq_append c
  have usual : defaultHooks.Nodup := by decide
  rw [whole, List.nodup_append]
  refine ⟨usual, first.nodup, ?_⟩
  rintro a known b new rfl
  have kept := (List.mem_filter.mp ((first.mem_iff a).mp new)).2
  simp [known] at kept

theorem hooks_addHooks (c : Config) (names : List String) :
    (c.addHooks names).hooks = addNew c.hooks names := by
  rw [addHooks_eq, hooks, hooks, addNew_append]

/-- An extension without a fault added all its names. -/
theorem eq_addHooks_of_extendHooks {c c' : Config} {names : List String}
    (done : c.extendHooks names = (c', none)) : c' = c.addHooks names := by
  rcases extendHooks_cases c names with ⟨-, added⟩ | ⟨bad, rest, -, -, stopped⟩
  · rw [added] at done
    exact (Prod.mk.inj done).1.symm
  · rw [stopped] at done
    cases (Prod.mk.inj done).2

theorem isHookName_of_mem_hooks {c : Config} (well : c.WellNamed) {name : String} (member : name ∈ c.hooks) :
    IsHookName name := by
  have usual : ∀ n ∈ defaultHooks, IsHookName n := by decide
  exact (mem_hooks_iff.mp member).elim (usual name) (well name)

/-- The tracked names as additional ones: the usual names are known, and the others are there once. -/
theorem addNew_defaultHooks_hooks (c : Config) : addNew defaultHooks c.hooks = c.hooks := by
  obtain ⟨others, whole, first⟩ := hooks_eq_append c
  obtain ⟨new, added, again⟩ := addNew_eq_append defaultHooks c.hooks
  have usual : defaultHooks.filter (· ∉ defaultHooks) = [] := by decide
  have kept : others.filter (· ∉ defaultHooks) = others := by
    refine List.filter_eq_self.mpr ?_
    intro n member
    exact (List.mem_filter.mp ((first.mem_iff n).mp member)).2
  rw [whole, List.filter_append, usual, List.nil_append, kept] at again
  have same : new = others := again.unique (.of_nodup first.nodup)
  rw [added, same, whole]

theorem withHooks_of_names {names : List String} (ok : ∀ n ∈ names, IsHookName n) :
    withHooks names = .ok (addHooks {} names) := by
  rw [withHooks, extendHooks_of_names _ ok]

end Config

open Check Hook Text

/-- The tracked names are the usual ones and behind them the additional ones, each once and where it first
comes. An extension that is not stopped puts its new names at the end. Taken as additional names, the tracked
names of a configuration are tracked again, in the same order, and just these names are known to a checker. -/
theorem hooks_ordered_union :
    (∀ c : Config, c.hooks.Nodup ∧
      (∃ others, c.hooks = ["useEffect", "useMemo", "useCallback"] ++ others ∧
        FirstOccurrences (c.additionalHooks.filter (· ∉ defaultHooks)) others) ∧
      ∀ name, name ∈ c.hooks ↔ name ∈ defaultHooks ∨ name ∈ c.additionalHooks) ∧
    (∀ (c c' : Config) (names : List String), c.extendHooks names = (c', none) →
      ∃ new, c'.hooks = c.hooks ++ new ∧ FirstOccurrences (names.filter (· ∉ c.hooks)) new) ∧
    (∀ c : Config, c.WellNamed → ∃ c', Config.withHooks c.hooks = .ok c' ∧ c'.hooks = c.hooks) ∧
    ∀ (c : Config) (name : String) (here there whole : Span),
      (resolve? (Checker.ofConfig c).hooks (.identifier ⟨name, here⟩) = some name ↔ name ∈ c.hooks) ∧
      (resolve? (Checker.ofConfig c).hooks
          (.member (.identifier ⟨"React", here⟩) (.named ⟨name, there⟩) whole) = some name ↔
        name ∈ c.hooks) := by
  refine ⟨?_, ?_, ?_, ?_⟩
  · intro c
    exact ⟨c.nodup_hooks, c.hooks_eq_append, fun name => Config.mem_hooks_iff⟩
  · intro c c' names done
    rw [Config.eq_addHooks_of_extendHooks done, Config.hooks_addHooks]
    exact Config.addNew_eq_append c.hooks names
  · intro c well
    have names : ∀ n ∈ c.hooks, IsHookName n := fun n => Config.isHookName_of_mem_hooks well
    refine ⟨_, Config.withHooks_of_names names, ?_⟩
    rw [Config.hooks_addHooks]
    exact c.addNew_defaultHooks_hooks
  · intro c name here there whole
    have tracked : (Checker.ofConfig c).hooks = c.hooks := rfl
    rw [tracked, resolve?_identifier_iff, resolve?_member_iff]
    simp

/-- Names that repeat each other and the usual ones, before and behind an extension. -/
def repetitive : Config := ⟨["useForm", "useMemo", "useQuery", "useForm"], .warn⟩

theorem hooks_ordered_union_repetitive :
    repetitive.extendHooks ["useRow", "useQuery", "useEffect", "useRow"] =
        (repetitive.addHooks ["useRow", "useQuery", "useEffect", "useRow"], none) ∧
      repetitive.WellNamed ∧
      (repetitive.addHooks ["useRow", "useQuery", "useEffect", "useRow"]).hooks =
        repetitive.hooks ++ ["useRow"] ∧
      ∃ c', Config.withHooks repetitive.hooks = .ok c' ∧ c'.hooks = repetitive.hooks := by
  have done : repetitive.extendHooks ["useRow", "useQuery", "useEffect", "useRow"] =
      (repetitive.addHooks ["useRow", "useQuery", "useEffect", "useRow"], none) := by decide
  have well : repetitive.WellNamed := by
    unfold Config.WellNamed
    decide
  obtain ⟨new, whole, first⟩ := hooks_ordered_union.2.1 _ _ _ done
  have kept : ["useRow", "useQuery", "useEffect", "useRow"].filter (· ∉ repetitive.hooks) =
      ["useRow", "useRow"] := by decide
  rw [kept] at first
  have only : FirstOccurrences ["useRow", "useRow"] ["useRow"] := ⟨by simp, by simp⟩
  rw [first.unique only] at whole
  exact ⟨done, well, whole, hooks_ordered_union.2.2.1 _ well⟩

end HookLint
