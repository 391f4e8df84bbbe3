/-! Results that may be faults: what a success of composed steps says of the steps. -/
namespace HookLint

variable {ε ε' α β : Type} {x : Except ε α}

theorem bind_eq_ok_iff {f : α → Except ε β} {b : β} :
    (x >>= f) = .ok b ↔ ∃ a, x = .ok a ∧ f a = .ok b := by
  constructor
  · intro bound
    cases x with
    | error e => cases bound
    | ok a => exact ⟨a, rfl, bound⟩
  · rintro ⟨a, rfl, same⟩
    exact same

theorem bind_eq_error_iff {f : α → Except ε β} {e : ε} :
    (x >>= f) = .error e ↔ x = .error e ∨ ∃ a, x = .ok a ∧ f a = .error e := by
  cases x with
  | error e' =>
    constructor
    · intro bound
      exact Or.inl (congrArg _ (Except.error.inj bound))
    · rintro (same | ⟨a, ⟨⟩, -⟩)
      exact congrArg _ (Except.error.inj same)
  | ok a =>
    constructor
    · intro bound
      exact Or.inr ⟨a, rfl, bound⟩
    · rintro (⟨⟨⟩⟩ | ⟨a', ⟨⟩, failed⟩)
      exact failed

theorem map_eq_ok_iff {f : α → β} {b : β} : x.map f = .ok b ↔ ∃ a, x = .ok a ∧ f a = b := by
  constructor
  · intro mapped
    cases x with
    | error e => cases mapped
    | ok a => exact ⟨a, rfl, Except.ok.inj mapped⟩
  · rintro ⟨a, rfl, rfl⟩
    rfl

theorem map_eq_error_iff {f : α → β} {e : ε} : x.map f = .error e ↔ x = .error e := by
  cases x with
  | error e' => rw [Except.map, Except.error.injEq, Except.error.injEq]
  | ok a =>
    constructor <;>
    · intro same
      cases same

theorem mapError_eq_ok_iff {f : ε → ε'} {a : α} : x.mapError f = .ok a ↔ x = .ok a := by
  cases x with
  | error e =>
    constructor <;>
    · intro same
      cases same
  | ok b =>
    constructor <;>
    · intro same
      exact congrArg _ (Except.ok.inj same)

end HookLint
