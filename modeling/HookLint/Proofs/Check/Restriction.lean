import HookLint.Proofs.Check.Merging
import HookLint.Proofs.Hook.Tracking

/-! Two runs that differ in what they track. The run that tracks less has the findings of the other that
are about its own hooks, in the same order; the severity is written on them and decides nothing. -/
namespace HookLint.Check

open HookLint.Files HookLint.Hook HookLint.Order HookLint.Tree

/-- The finding is about one of the hooks that the checker tracks. -/
def Checker.about (k : Checker) (g : Finding) : Bool := k.hooks.any fun h => g.Names h

theorem Checker.about_iff {k : Checker} {g : Finding} : k.about g ↔ ∃ h ∈ k.hooks, g.Names h := by
  simp [Checker.about]

theorem Checker.about_finding (k : Checker) (d : Diagnostic) (file : Path) (severity : Severity) :
    k.about (d.finding file severity) = k.hooks.contains d.hook := by
  rw [Bool.eq_iff_iff, about_iff, List.contains_iff_mem]
  constructor
  · rintro ⟨h, tracked, named⟩
    exact (Finding.names_finding d file severity h).mp named ▸ tracked
  · intro tracked
    exact ⟨d.hook, tracked, (Finding.names_finding d file severity d.hook).mpr rfl⟩

/-- What is left of findings when only some hooks are tracked. -/
def Checker.keep (k : Checker) (gs : List Finding) : List Finding :=
  (gs.filter k.about).map (Finding.relabel k.severity)

theorem Checker.keep_append (k : Checker) (gs gs' : List Finding) :
    k.keep (gs ++ gs') = k.keep gs ++ k.keep gs' := by
  simp only [Checker.keep, List.filter_append, List.map_append]

theorem Checker.keep_mergeSort (k : Checker) (gs : List Finding) :
    k.keep (gs.mergeSort findingNotAfter) = (k.keep gs).mergeSort findingNotAfter := by
  rw [Checker.keep, findingNotAfter_weak.filter_mergeSort]
  exact List.map_mergeSort fun a _ b _ => rfl

variable {k k' : Checker}

theorem finding?_restrict (nested : ∀ h ∈ k.hooks, h ∈ k'.hooks) (file : Path) (ignored : List Nat)
    (call : Call) :
    k.finding? file ignored call =
      ((k'.finding? file ignored call).filter k.about).map (Finding.relabel k.severity) := by
  ext g
  simp only [Option.map_eq_some_iff, Option.filter_eq_some_iff, Checker.finding?_eq_some_iff,
    detect?_restrict nested]
  constructor
  · rintro ⟨d, ⟨detected, tracked⟩, line, rfl⟩
    exact ⟨_, ⟨⟨d, detected, line, rfl⟩, (k.about_finding d file _).trans tracked⟩, rfl⟩
  · rintro ⟨_, ⟨⟨d, detected, line, rfl⟩, about⟩, rfl⟩
    exact ⟨d, ⟨detected, (k.about_finding d file _).symm.trans about⟩, line, rfl⟩

theorem filterMap_finding?_restrict (nested : ∀ h ∈ k.hooks, h ∈ k'.hooks) (file : Path)
    (ignored : List Nat) (calls : List Call) :
    calls.filterMap (k.finding? file ignored) = k.keep (calls.filterMap (k'.finding? file ignored)) := by
  rw [Checker.keep, List.filter_filterMap, List.map_filterMap]
  exact List.filterMap_congr fun call _ => finding?_restrict nested file ignored call

/-- An outcome beside that of a checker that tracks more. -/
structure Outcome.Restricts (k : Checker) (o o' : Outcome) : Prop where
  findings : o.findings = k.keep o'.findings
  failures : o.failures = o'.failures
  calls : o.calls = o'.calls

theorem checkTree_restricts (nested : ∀ h ∈ k.hooks, h ∈ k'.hooks) (file : Path) (source : String)
    (root : Node) : (checkTree k file source root).Restricts k (checkTree k' file source root) := by
  cases fault : root.firstFault? with
  | some p =>
    rw [checkTree_of_fault k file source fault, checkTree_of_fault k' file source fault]
    exact ⟨rfl, rfl, rfl⟩
  | none =>
    rw [checkTree_of_parsed k file source fault, checkTree_of_parsed k' file source fault]
    exact ⟨filterMap_finding?_restrict nested file _ _, rfl, rfl⟩

theorem outcomesBy_restricts (parse : Parse) (nested : ∀ h ∈ k.hooks, h ∈ k'.hooks) (d : Disk)
    (files : List Path) :
    List.Forall₂ (Outcome.Restricts k) (files.flatMap fun f => outcomesBy parse k f (d.readText f))
      (files.flatMap fun f => outcomesBy parse k' f (d.readText f)) := by
  induction files with
  | nil => exact .nil
  | cons f files ih =>
    rw [List.flatMap_cons, List.flatMap_cons]
    cases d.readText f with
    | error e => exact ih
    | ok source => exact .cons (checkTree_restricts nested f source _) ih

theorem gather_restricts (k : Checker) (totalFiles : Nat) {os os' : List Outcome}
    (restricts : List.Forall₂ (Outcome.Restricts k) os os') :
    (gather totalFiles os).findings = k.keep (gather totalFiles os').findings ∧
      (gather totalFiles os).parseErrors = (gather totalFiles os').parseErrors ∧
      (gather totalFiles os).summary.totalFiles = (gather totalFiles os').summary.totalFiles ∧
      (gather totalFiles os).summary.callsChecked = (gather totalFiles os').summary.callsChecked := by
  have parts : os.flatMap Outcome.findings = k.keep (os'.flatMap Outcome.findings) ∧
      os.flatMap Outcome.failures = os'.flatMap Outcome.failures ∧ totalCalls os = totalCalls os' := by
    induction restricts with
    | nil => exact ⟨rfl, rfl, rfl⟩
    | cons one _ ih =>
      obtain ⟨findings, failures, calls⟩ := ih
      refine ⟨?_, ?_, ?_⟩
      · rw [List.flatMap_cons, List.flatMap_cons, one.findings, findings, Checker.keep_append]
      · rw [List.flatMap_cons, List.flatMap_cons, one.failures, failures]
      · rw [totalCalls, totalCalls, one.calls, calls]
  obtain ⟨findings, failures, calls⟩ := parts
  refine ⟨?_, ?_, ?_, calls⟩
  · rw [gather, gather, findings, ← Checker.keep_mergeSort]
  · rw [gather, gather, failures]
  · rw [gather, gather]

theorem checkTree_congr (same : ∀ h, h ∈ k.hooks ↔ h ∈ k'.hooks) (severity : k.severity = k'.severity) :
    checkTree k = checkTree k' := by
  have detected : detect? k.hooks = detect? k'.hooks := detect?_congr same
  have found : k.finding? = k'.finding? := by
    funext file ignored call
    rw [Checker.finding?, Checker.finding?, detected, severity]
  have passed : k.passedOver? = k'.passedOver? := by
    funext ignored call
    rw [Checker.passedOver?, Checker.passedOver?, detected]
  funext file source root
  cases fault : root.firstFault? with
  | some p => rw [checkTree_of_fault k file source fault, checkTree_of_fault k' file source fault]
  | none =>
    rw [checkTree_of_parsed k file source fault, checkTree_of_parsed k' file source fault, found, passed]

theorem analyze_congr (same : ∀ h, h ∈ k.hooks ↔ h ∈ k'.hooks) (severity : k.severity = k'.severity)
    (d : Disk) (p : Path) : analyze k d p = analyze k' d p := by
  have outcomes : outcomesBy .reader k = outcomesBy .reader k' := by
    funext file text
    cases text with
    | error e => rfl
    | ok source => rw [outcomesBy_ok, outcomesBy_ok, checkTree_congr same severity]
  cases found : d.discover p with
  | error e => rw [analyze_of_undiscovered k found, analyze_of_undiscovered k' found]
  | ok files => rw [analyze_eq_gather k found, analyze_eq_gather k' found, outcomes]

theorem hook_of_finding? {file : Path} {ignored : List Nat} {call : Call} {g : Finding}
    (found : k.finding? file ignored call = some g) : ∃ h ∈ k.hooks, ∀ h', g.Names h' ↔ h' = h := by
  obtain ⟨d, detected, -, rfl⟩ := Checker.finding?_eq_some_iff.mp found
  exact ⟨d.hook, tracked_of_detect? detected, Finding.names_finding d file k.severity⟩

theorem hook_of_mem_findings {d : Disk} {p : Path} {r : Result} {g : Finding}
    (ran : analyze k d p = .ok r) (member : g ∈ r.findings) :
    ∃ h ∈ k.hooks, ∀ h', g.Names h' ↔ h' = h := by
  cases found : d.discover p with
  | error e =>
    rw [analyze_of_undiscovered k found] at ran
    cases ran
  | ok files =>
    rw [analyze_eq_gather k found] at ran
    obtain rfl := Except.ok.inj ran
    rw [gather, List.mem_mergeSort] at member
    obtain ⟨o, inside, member⟩ := List.mem_flatMap.mp member
    obtain ⟨f, -, inside⟩ := List.mem_flatMap.mp inside
    obtain ⟨ignored, call, made⟩ := finding?_of_mem_outcomesBy inside member
    exact hook_of_finding? made

/-- With more names tracked nothing is lost and nothing moves. Two runs on the same files both fail, and
for the same reason, or they read the same files and see the same syntax errors and calls, and the findings
of the one that tracks less are those of the other that are about its own hooks. Each finding is about
one hook. The severity changes the label alone. -/
theorem analyze_restricts (c c' : Config) (nested : ∀ h ∈ c.hooks, h ∈ c'.hooks) (d : Disk) (p : Path) :
    ((∃ e, analyze (.ofConfig c) d p = .error e ∧ analyze (.ofConfig c') d p = .error e) ∨
      ∃ r r', analyze (.ofConfig c) d p = .ok r ∧ analyze (.ofConfig c') d p = .ok r' ∧
        r.parseErrors = r'.parseErrors ∧ r.summary.totalFiles = r'.summary.totalFiles ∧
        r.summary.callsChecked = r'.summary.callsChecked ∧
        r.findings = (r'.findings.filter fun g => ∃ h ∈ c.hooks, g.Names h).map
          (fun g => { g with severity := c.severity }) ∧
        ∀ g ∈ r'.findings, ∃ h ∈ c'.hooks, ∀ h', g.Names h' ↔ h' = h) ∧
      ((∀ h ∈ c'.hooks, h ∈ c.hooks) → c.severity = c'.severity →
        analyze (.ofConfig c) d p = analyze (.ofConfig c') d p) := by
  constructor
  · cases found : d.discover p with
    | error e =>
      exact Or.inl ⟨e, analyze_of_undiscovered _ found, analyze_of_undiscovered _ found⟩
    | ok files =>
      have ran := analyze_eq_gather (.ofConfig c) found
      have ran' := analyze_eq_gather (.ofConfig c') found
      have tracked : ∀ h ∈ (Checker.ofConfig c).hooks, h ∈ (Checker.ofConfig c').hooks := nested
      obtain ⟨findings, parseErrors, total, calls⟩ := gather_restricts (.ofConfig c) files.length
        (outcomesBy_restricts .reader tracked d files)
      refine Or.inr ⟨_, _, ran, ran', parseErrors, total, calls, ?_, fun g => hook_of_mem_findings ran'⟩
      rw [findings, Checker.keep]
      refine congrArg (List.map _) (List.filter_congr fun g _ => ?_)
      rw [Bool.eq_iff_iff, Checker.about_iff, decide_eq_true_eq]
      rfl
  · intro back severity
    exact analyze_congr (fun h => ⟨nested h, back h⟩) severity d p

/-- The usual hooks beside one more, with another severity, and the usual hooks with one of them repeated. -/
theorem analyze_twoFiles_tracked :
    let c : Config := {}
    let more : Config := { additionalHooks := ["useQuery", "useMemo"], severity := .warn }
    let again : Config := { additionalHooks := ["useMemo"] }
    (∀ h ∈ c.hooks, h ∈ more.hooks) ∧ (∀ h ∈ c.hooks, h ∈ again.hooks) ∧
      (∃ r r', analyze (.ofConfig c) twoFiles ⟨"src"⟩ = .ok r ∧
        analyze (.ofConfig more) twoFiles ⟨"src"⟩ = .ok r' ∧
        r.summary.callsChecked = r'.summary.callsChecked ∧
        r.findings = (r'.findings.filter fun g => ∃ h ∈ c.hooks, g.Names h).map
          (fun g => { g with severity := .error })) ∧
      analyze (.ofConfig c) twoFiles ⟨"src"⟩ = analyze (.ofConfig again) twoFiles ⟨"src"⟩ := by
  intro c more again
  have nested : ∀ h ∈ c.hooks, h ∈ more.hooks := by decide
  have same : ∀ h ∈ c.hooks, h ∈ again.hooks := by decide
  have equal := (analyze_restricts c again same twoFiles ⟨"src"⟩).2 (by decide) rfl
  rcases (analyze_restricts c more nested twoFiles ⟨"src"⟩).1 with
    ⟨e, failed, -⟩ | ⟨r, r', ran, ran', -, -, calls, findings, -⟩
  · rw [analyze_eq_gather _ twoFiles_discover] at failed
    cases failed
  · exact ⟨nested, same, ⟨r, r', ran, ran', calls, findings⟩, equal⟩

end HookLint.Check
