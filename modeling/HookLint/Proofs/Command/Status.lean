import HookLint.Proofs.Check.Counting
import HookLint.Proofs.Check.Positions
import HookLint.Proofs.Command.Configuration
import HookLint.Proofs.Command.Words

/-! The exit status of a run. It is that of the first stage that fails, and without a failure it says whether
the result is clean. The form of the report is no matter, but for files whose paths are no text: people are told
of them, in JSON they cannot be named. -/
namespace HookLint.Command

open HookLint.Check HookLint.Files

variable {parse : Parse} {d : Disk} {o : Options}

theorem check_eq_checkBy (d : Disk) (shaded : Bool) (o : Options) :
    check d shaded o = checkBy .reader d shaded o := by
  have same : survey = surveyBy .reader := by
    funext k d p
    exact survey_eq_surveyBy k d p
  rw [check, checkBy, same]

theorem run_eq_runBy (d : Disk) (shaded : Bool) (setting : Option String) (ws : List String) :
    run d shaded setting ws = runBy .reader d shaded setting ws := by
  rw [run, runBy, funext (check_eq_checkBy d shaded)]

section Printed

variable {r : Result}

theorem printed_of_text (text : o.json → ∀ p ∈ r.paths, d.isText p) (shaded : Bool) :
    printed d shaded o r = .ok (rendered shaded o r) := by
  have free : ¬ (o.json && !r.paths.all d.isText) := by simpa using text
  rw [printed, if_neg free]

theorem printed_of_illegible (json : o.json) (other : ∃ p ∈ r.paths, ¬ d.isText p) (shaded : Bool) :
    printed d shaded o r = .error .illegible := by
  have found : (o.json && !r.paths.all d.isText) = true := by simpa [json] using other
  rw [printed, if_pos found]

end Printed

theorem checkBy_of_entry {c : Config} {e : Entry} (effective : Effective d o (.ok c))
    (there : d.entry o.target = .ok e) (parse : Parse) (shaded : Bool) :
    ∃ files notes, d.discover o.target = .ok files ∧
      checkBy parse d shaded o =
        match printed d shaded o (resultBy parse (.ofConfig c) d files) with
        | .error f => failed notes f
        | .ok output => ⟨if (resultBy parse (.ofConfig c) d files).isClean then 0 else 1, output, notes, []⟩ := by
  obtain ⟨files, found⟩ : ∃ files, d.discover o.target = .ok files := by
    rw [Disk.discover, there]
    cases e <;> exact ⟨_, rfl⟩
  rw [checkBy, answer, effective.sound]
  simp only [surveyBy_of_discovered found, Survey.result, filterMap_reportBy]
  exact ⟨files, _, found, rfl⟩

theorem runBy_of_accepted {ws : List String} (accepted : Request.ofWords ws = .ok (.run o)) (parse : Parse)
    (d : Disk) (shaded : Bool) (setting : Option String) :
    (runBy parse d shaded setting ws).status = (checkBy parse d shaded o).status ∧
      (runBy parse d shaded setting ws).output = (checkBy parse d shaded o).output ∧
      (runBy parse d shaded setting ws).complaints = (checkBy parse d shaded o).complaints := by
  rw [runBy, reply, accepted]
  exact ⟨rfl, rfl, rfl⟩

/-- A run on a target that is there prints the result that the files come to, or fails to name a file. -/
theorem runBy_of_entry {ws : List String} {c : Config} {e : Entry} (accepted : Request.ofWords ws = .ok (.run o))
    (effective : Effective d o (.ok c)) (there : d.entry o.target = .ok e) (parse : Parse) (shaded : Bool)
    (setting : Option String) :
    ∃ files, d.discover o.target = .ok files ∧
      let a := runBy parse d shaded setting ws
      let r := resultBy parse (.ofConfig c) d files
      ((o.json ∧ ∃ p ∈ r.paths, ¬ d.isText p) →
        a.status = 1 ∧ a.output = "" ∧ a.complaints = Failure.illegible.lines) ∧
      ((o.json → ∀ p ∈ r.paths, d.isText p) →
        a.status = (if r.isClean then 0 else 1) ∧ a.output = rendered shaded o r ∧ a.complaints = []) := by
  obtain ⟨status, output, complaints⟩ := runBy_of_accepted accepted parse d shaded setting
  obtain ⟨files, notes, found, same⟩ := checkBy_of_entry effective there parse shaded
  refine ⟨files, found, ?_, ?_⟩
  · rintro ⟨json, other⟩
    rw [same, printed_of_illegible json other] at status output complaints
    exact ⟨status, output, complaints⟩
  · intro text
    rw [same, printed_of_text text] at status output complaints
    exact ⟨status, output, complaints⟩

theorem status_eq_zero_iff {status : Nat} {clean : Bool} (exit : status = if clean then 0 else 1) :
    status = 0 ↔ clean := by
  rw [exit]
  cases clean <;> decide

end HookLint.Command
