import HookLint.Proofs.Config.Names
import HookLint.Proofs.Results

/-! Runs of changes to a configuration. Whatever changes are made, and whether or not they fail, the names in
it stay identifiers; an extension that fails keeps what it added, and any other failure keeps all. -/
namespace HookLint.Config

open HookLint.Files

section Reading

variable {c c' : Config}

theorem WellNamed.withSeverity (well : c.WellNamed) (s : Severity) : WellNamed { c with severity := s } := well

theorem WellNamed.addItems {index : Nat} {items : List Json.Value} (well : c.WellNamed)
    (added : c.addItems index items = .ok c') : c'.WellNamed := by
  induction items generalizing c index with
  | nil => exact Except.ok.inj added ▸ well
  | cons item items ih =>
    cases item with
    | string name =>
      rw [Config.addItems] at added
      by_cases ok : IsHookName name
      · rw [hookFault?_of_name ok] at added
        exact ih (well.addHook ok) added
      · rw [hookFault?_of_other ok] at added
        cases added
    | null | bool | number | array | object => cases added

theorem WellNamed.addMember {key : String} {v : Json.Value} (well : c.WellNamed)
    (added : c.addMember key v = .ok c') : c'.WellNamed := by
  unfold Config.addMember at added
  split at added
  · obtain ⟨s, -, rfl⟩ := map_eq_ok_iff.mp added
    exact well.withSeverity s
  · split at added
    · cases v with
      | array items => exact well.addItems added
      | null | bool | number | string | object => cases added
    · cases added

theorem WellNamed.addMembers {members : Json.Members} (well : c.WellNamed)
    (added : c.addMembers members = .ok c') : c'.WellNamed := by
  induction members generalizing c with
  | nil => exact Except.ok.inj added ▸ well
  | cons m members ih =>
    obtain ⟨next, first, rest⟩ := bind_eq_ok_iff.mp added
    exact ih (well.addMember first) rest

theorem wellNamed_ofJson {v : Json.Value} (read : ofJson v = .ok c) : c.WellNamed := by
  cases v with
  | object members => exact wellNamed_default.addMembers read
  | null | bool | number | string | array => cases read

theorem wellNamed_ofText {text : String} (read : ofText text = .ok c) : c.WellNamed := by
  unfold ofText at read
  split at read
  · cases read
  · exact wellNamed_ofJson (mapError_eq_ok_iff.mp read)

theorem wellNamed_ofFile {d : Disk} {p : Path} (read : ofFile d p = .ok c) : c.WellNamed := by
  obtain ⟨_, -, rest⟩ := bind_eq_ok_iff.mp read
  obtain ⟨_, -, rest⟩ := bind_eq_ok_iff.mp rest
  exact wellNamed_ofJson rest

theorem wellNamed_discover {d : Disk} {directory : Path} (read : Config.discover d directory = .ok c) :
    c.WellNamed := by
  unfold Config.discover at read
  split at read
  · exact wellNamed_ofFile read
  · exact Except.ok.inj read ▸ wellNamed_default

theorem wellNamed_withHooks {names : List String} (made : withHooks names = .ok c) : c.WellNamed := by
  have extended := wellNamed_default.extendHooks names
  unfold withHooks at made
  split at made
  · rename_i new same
    rw [same] at extended
    exact Except.ok.inj made ▸ extended
  · cases made

end Reading

/-- A change of a configuration: a step, with the files as they are by then, or a value in its place that
did not come from a text. -/
inductive Change where
  | step (d : Disk) (s : Step)
  | value (v : Json.Value)

def change (c : Config) : Change → Config × Option StepFault
  | .step d s => c.apply d s
  | .value v => c.replace ((ofJson v).mapError .config)

/-- The configuration that changes leave, whether or not they fail. -/
def after (c : Config) (changes : List Change) : Config := changes.foldl (fun c x => (c.change x).1) c

def Change.IsExtension : Change → Prop
  | .step _ (.extendHooks _) => True
  | _ => False

theorem WellNamed.replace {c : Config} (well : c.WellNamed) {new : Except StepFault Config}
    (ok : ∀ c', new = .ok c' → c'.WellNamed) : (c.replace new).1.WellNamed := by
  cases new with
  | error f => exact well
  | ok c' => exact ok c' rfl

/-- What every change keeps. -/
theorem WellNamed.change {c : Config} (well : c.WellNamed) (x : Change) : (c.change x).1.WellNamed := by
  cases x with
  | value v => exact well.replace fun _ read => wellNamed_ofJson (mapError_eq_ok_iff.mp read)
  | step d s =>
    cases s with
    | reset => exact wellNamed_default
    | withHooks names => exact well.replace fun _ made => wellNamed_withHooks (mapError_eq_ok_iff.mp made)
    | extendHooks names => exact well.extendHooks names
    | severity text =>
      refine well.replace fun c' set => ?_
      obtain ⟨s, -, rfl⟩ := map_eq_ok_iff.mp (mapError_eq_ok_iff.mp set)
      exact well.withSeverity s
    | json text => exact well.replace fun _ read => wellNamed_ofText read
    | file p => exact well.replace fun _ read => wellNamed_ofFile (mapError_eq_ok_iff.mp read)
    | discover p => exact well.replace fun _ read => wellNamed_discover (mapError_eq_ok_iff.mp read)

theorem WellNamed.after {c : Config} (well : c.WellNamed) (changes : List Change) :
    (c.after changes).WellNamed := by
  induction changes generalizing c with
  | nil => exact well
  | cons x changes ih => exact ih (well.change x)

/-- The entries of a run are what its steps leave, one after another. -/
theorem mem_run {d : Disk} {c : Config} {steps : List Step} {r : Config × Option StepFault}
    (member : r ∈ run d c steps) : ∃ front, front <+: steps ∧ r.1 = c.after (front.map (.step d)) := by
  induction steps generalizing c with
  | nil => cases member
  | cons s steps ih =>
    rw [run, List.mem_cons] at member
    rcases member with rfl | later
    · exact ⟨[s], ⟨steps, rfl⟩, rfl⟩
    · obtain ⟨front, inFront, same⟩ := ih later
      exact ⟨s :: front, List.cons_prefix_cons.mpr ⟨rfl, inFront⟩, same⟩

theorem replace_of_fault {c : Config} {new : Except StepFault Config} (failed : (c.replace new).2 ≠ none) :
    (c.replace new).1 = c := by
  cases new with
  | error f => rfl
  | ok c' => exact absurd rfl failed

theorem change_of_fault {c : Config} {x : Change} (replaces : ¬ x.IsExtension) (failed : (c.change x).2 ≠ none) :
    (c.change x).1 = c := by
  cases x with
  | value v => exact replace_of_fault failed
  | step d s =>
    cases s with
    | reset => exact absurd rfl failed
    | extendHooks names => exact absurd trivial replaces
    | withHooks | severity | json | file | discover => exact replace_of_fault failed

theorem apply_extendHooks (c : Config) (d : Disk) (names : List String) :
    let kept := names.takeWhile (IsHookName ·)
    let c' : Config := { c with additionalHooks := c.additionalHooks ++ kept }
    names = kept ∧ c.apply d (.extendHooks names) = (c', none) ∨
      ∃ bad rest, names = kept ++ bad :: rest ∧ ¬ IsHookName bad ∧ c.apply d (.extendHooks names) =
        (c', some (.config (nameFault c'.additionalHooks.length bad))) := by
  intro kept c'
  have kept_added : c.addHooks kept = c' := addHooks_eq c kept
  rw [apply]
  rcases extendHooks_cases c names with ⟨ok, added⟩ | ⟨bad, rest, cut, other, stopped⟩
  · have all : kept = names := List.takeWhile_eq_self_iff.mpr fun n member => decide_eq_true (ok n member)
    rw [all] at kept_added
    rw [added, kept_added]
    exact Or.inl ⟨all.symm, rfl⟩
  · rw [stopped, kept_added]
    exact Or.inr ⟨bad, rest, cut, other, rfl⟩

/-- The names of additional hooks are identifiers after all changes, those that failed among them, and so
they are along each run of steps. An extension adds the longest front of identifiers and keeps all else; when
a name is left it fails, and the number that it reports is that of the hooks there are by then. Any other
change that fails changes nothing. -/
theorem changes_keep_names :
    (∀ changes, ∀ h ∈ (after {} changes).additionalHooks, h ≠ "" ∧ isIdentifier h) ∧
      (∀ d steps, ∀ r ∈ run d {} steps, ∀ h ∈ r.1.additionalHooks, h ≠ "" ∧ isIdentifier h) ∧
      (∀ (c : Config) d names,
        let kept := names.takeWhile fun n => n ≠ "" ∧ isIdentifier n
        let c' : Config := { c with additionalHooks := c.additionalHooks ++ kept }
        names = kept ∧ c.apply d (.extendHooks names) = (c', none) ∨
          ∃ bad rest, names = kept ++ bad :: rest ∧ ¬ (bad ≠ "" ∧ isIdentifier bad) ∧
            c.apply d (.extendHooks names) =
              (c', some (.config (nameFault c'.additionalHooks.length bad)))) ∧
      ∀ (c : Config) x, ¬ x.IsExtension → (c.change x).2 ≠ none → (c.change x).1 = c := by
  refine ⟨wellNamed_default.after, ?_, apply_extendHooks, fun c x => change_of_fault⟩
  intro d steps r member
  obtain ⟨front, -, same⟩ := mem_run member
  rw [same]
  exact wellNamed_default.after (front.map (.step d))

/-- A run with a bad name among good ones, and then an unknown severity. -/
def stumblingRun : List Step :=
  [.withHooks ["useQuery"], .extendHooks ["useForm", "use form", "useTable"], .severity "loud"]

theorem stumblingRun_keeps_names :
    let c : Config := { additionalHooks := ["useQuery"] }
    let c' : Config := { additionalHooks := ["useQuery", "useForm"] }
    (c'.additionalHooks, some (.config (.unknownSeverity "loud"))) ∈
        (run .empty {} stumblingRun).map (fun r => (r.1.additionalHooks, r.2)) ∧
      (∀ h ∈ c'.additionalHooks, h ≠ "" ∧ isIdentifier h) ∧
      c.apply .empty (.extendHooks ["useForm", "use form", "useTable"]) =
        (c', some (.config (.invalidHookName 2 "use form"))) ∧
      (c'.change (.step .empty (.severity "loud"))).1 = c' := by
  intro c c'
  obtain ⟨-, along, extension, others⟩ := changes_keep_names
  have last : (c', some (.config (.unknownSeverity "loud"))) ∈ run .empty {} stumblingRun := by decide
  refine ⟨List.mem_map_of_mem last, along .empty stumblingRun _ last, ?_, ?_⟩
  · rcases extension c .empty ["useForm", "use form", "useTable"] with ⟨all, -⟩ | ⟨bad, rest, cut, -, same⟩
    · exact absurd all (by decide)
    · have kept : ["useForm", "use form", "useTable"] = "useForm" :: bad :: rest := cut
      obtain ⟨rfl, -⟩ := List.cons.inj (List.cons.inj kept).2
      exact same
  · exact others c' (.step .empty (.severity "loud")) id (by decide)

end HookLint.Config
