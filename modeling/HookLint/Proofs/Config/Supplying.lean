import HookLint.Proofs.Config.Values

/-! Names come by a list of them, by a JSON array or as an extension of what is there. All three number the
names on from those before, so it makes no difference how a list is cut up and which way its parts come. -/
namespace HookLint.Config

/-- What is left of an addition when a fault ends it without a configuration. -/
def finished : Config × Option ConfigFault → Except ConfigFault Config
  | (c, none) => .ok c
  | (_, some f) => .error f

/-- Adds names that have their numbers with them, up to the first that is not allowed. -/
def addNumbered (c : Config) : List (String × Nat) → Config × Option ConfigFault
  | [] => (c, none)
  | (name, index) :: rest =>
    match hookFault? index name with
    | some f => (c, some f)
    | none => (c.addHook name).addNumbered rest

theorem withHooks_eq (names : List String) : withHooks names = finished (extendHooks {} names) := by
  rw [withHooks]
  obtain ⟨c, _ | f⟩ := extendHooks {} names <;> rfl

/-- The second part of an extension is added to what the first left, unless that was stopped. -/
theorem extendHooks_parts (c : Config) (a b : List String) :
    c.extendHooks (a ++ b) =
      match c.extendHooks a with
      | (c', none) => c'.extendHooks b
      | (c', some f) => (c', some f) := by
  induction a generalizing c with
  | nil => rfl
  | cons name a ih =>
    rw [List.cons_append, extendHooks, extendHooks]
    cases hookFault? c.additionalHooks.length name with
    | some f => rfl
    | none => exact ih (c.addHook name)

theorem withHooks_parts (a b : List String) :
    withHooks (a ++ b) = withHooks a >>= fun c => finished (c.extendHooks b) := by
  rw [withHooks_eq, withHooks_eq, extendHooks_parts]
  obtain ⟨c, _ | f⟩ := extendHooks {} a <;> rfl

/-- The hooks that are there by then are as many as the number of the name. -/
theorem extendHooks_eq_addNumbered (c : Config) (names : List String) :
    c.extendHooks names = c.addNumbered (names.zipIdx c.additionalHooks.length) := by
  induction names generalizing c with
  | nil => rfl
  | cons name names ih =>
    have next : (c.addHook name).additionalHooks.length = c.additionalHooks.length + 1 := by
      rw [addHook, List.length_append, List.length_singleton]
    rw [extendHooks, List.zipIdx_cons, addNumbered]
    cases hookFault? c.additionalHooks.length name with
    | some f => rfl
    | none => exact next ▸ ih (c.addHook name)

theorem addItems_eq_addNumbered (c : Config) (index : Nat) (names : List String) :
    c.addItems index (names.map .string) = finished (c.addNumbered (names.zipIdx index)) := by
  induction names generalizing c index with
  | nil => rfl
  | cons name names ih =>
    rw [List.map_cons, addItems, List.zipIdx_cons, addNumbered]
    cases hookFault? index name with
    | some f => rfl
    | none => exact ih (c.addHook name) (index + 1)

theorem ofJson_hooks (names : List String) :
    ofJson (.object [("additionalHooks", .array (names.map .string))]) = addItems {} 0 (names.map .string) := by
  have only : ∀ x : Except ConfigFault Config, (x >>= fun c => c.addMembers []) = x := fun x => bind_pure x
  exact only _

/-- A list of names gives one configuration or one fault, whether it comes at once or in two parts, as a list
or as the only member of a JSON object. An extension by two parts, one after another, leaves the state and the
fault of the extension by both. Names are numbered from 0, and those of an extension from the number of the
hooks that are there. -/
theorem supplies_agree :
    (∀ a b, withHooks (a ++ b) = withHooks a >>= fun c => finished (c.extendHooks b)) ∧
      (∀ a, ofJson (.object [("additionalHooks", .array (a.map .string))]) = withHooks a) ∧
      (∀ (c : Config) a b, c.extendHooks (a ++ b) =
        match c.extendHooks a with
        | (c', none) => c'.extendHooks b
        | (c', some f) => (c', some f)) ∧
      (∀ a, withHooks a = finished (addNumbered {} (a.zipIdx 0))) ∧
      ∀ (c : Config) a, c.extendHooks a = c.addNumbered (a.zipIdx c.additionalHooks.length) := by
  have numbered : ∀ a, withHooks a = finished (addNumbered {} (a.zipIdx 0)) := by
    intro a
    rw [withHooks_eq, extendHooks_eq_addNumbered]
    rfl
  refine ⟨withHooks_parts, ?_, extendHooks_parts, numbered, extendHooks_eq_addNumbered⟩
  intro a
  rw [ofJson_hooks, addItems_eq_addNumbered, numbered]

-- the names of the second part are numbered on, and the good ones among them stay
example : extendHooks ⟨["useForm"], .warn⟩ (["useQuery"] ++ ["useTable", "use table", "useRow"]) =
    (⟨["useForm", "useQuery", "useTable"], .warn⟩, some (.invalidHookName 3 "use table")) := by decide

end HookLint.Config
