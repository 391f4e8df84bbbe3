import HookLint.Proofs.Check.Merging
import HookLint.Proofs.Results

/-! What the files of a run come to. A file cannot be read, or does not parse, or is checked; so lists and
counts of all outcomes are lists and counts of files. -/
namespace HookLint.Check

open HookLint.Files HookLint.Hook HookLint.Tree

def isUnreadable (d : Disk) (f : Path) : Bool := (d.readText f).toOption.isNone

def failureBy? (parse : Parse) (d : Disk) (f : Path) : Option ParseFailure :=
  match d.readText f with
  | .ok source => (parse (Language.ofPath f) source).firstFault?.map fun p => ⟨f, p.line, p.column⟩
  | .error _ => none

/-- The calls of a file that parses. -/
def callsBy? (parse : Parse) (d : Disk) (f : Path) : Option (List Call) :=
  match d.readText f with
  | .ok source =>
    let root := parse (Language.ofPath f) source
    match root.firstFault? with
    | some _ => none
    | none => some (callsOf source root)
  | .error _ => none

inductive Fate (parse : Parse) (k : Checker) (d : Disk) (f : Path) : Prop
  | unread (made : outcomesBy parse k f (d.readText f) = []) (text : isUnreadable d f = true)
      (failure : failureBy? parse d f = none) (calls : callsBy? parse d f = none)
  | unparsed {e : ParseFailure} (made : outcomesBy parse k f (d.readText f) = [.unparsed e])
      (text : isUnreadable d f = false) (failure : failureBy? parse d f = some e)
      (calls : callsBy? parse d f = none)
  | checked {cs : List Call} {ignored suppressed : List Nat}
      (made : outcomesBy parse k f (d.readText f) =
        [.checked (cs.filterMap (k.finding? f ignored)) cs.length suppressed])
      (text : isUnreadable d f = false) (failure : failureBy? parse d f = none)
      (calls : callsBy? parse d f = some cs)

theorem fate (parse : Parse) (k : Checker) (d : Disk) (f : Path) : Fate parse k d f := by
  cases text : d.readText f with
  | error e =>
    refine .unread ?_ ?_ ?_ ?_
    · rw [text, outcomesBy_error]
    · rw [isUnreadable, text]
      rfl
    · rw [failureBy?, text]
    · rw [callsBy?, text]
  | ok source =>
    have read : isUnreadable d f = false := by
      rw [isUnreadable, text]
      rfl
    cases fault : (parse (Language.ofPath f) source).firstFault? with
    | some p =>
      have made := checkTree_of_fault k f source fault
      refine .unparsed (by rw [text, outcomesBy_ok, made]) read ?_ ?_
      · simp only [failureBy?, text, fault, Option.map_some]
      · simp only [callsBy?, text, fault]
    | none =>
      have made := checkTree_of_parsed k f source fault
      refine .checked (by rw [text, outcomesBy_ok, made]) read ?_ ?_
      · simp only [failureBy?, text, fault, Option.map_none]
      · simp only [callsBy?, text, fault]

section File

variable {parse : Parse} {k : Checker} {d : Disk} {f : Path} {g : Finding}

theorem file_of_failureBy? {e : ParseFailure} (failed : failureBy? parse d f = some e) : e.file = f := by
  unfold failureBy? at failed
  split at failed
  · obtain ⟨p, -, rfl⟩ := Option.map_eq_some_iff.mp failed
    rfl
  · cases failed

theorem flatMap_failures (parse : Parse) (k : Checker) (d : Disk) (f : Path) :
    (outcomesBy parse k f (d.readText f)).flatMap Outcome.failures = (failureBy? parse d f).toList := by
  cases fate parse k d f with
  | unread made _ failure _ | unparsed made _ failure _ | checked made _ failure _ =>
    rw [made, failure]
    rfl

/-- A file with a finding is checked, with the severity of the checker. -/
theorem checked_of_mem (member : g ∈ (outcomesBy parse k f (d.readText f)).flatMap Outcome.findings) :
    failureBy? parse d f = none ∧ g.severity = k.severity := by
  cases fate parse k d f with
  | unread made | unparsed made =>
    rw [made] at member
    cases member
  | checked made _ failure =>
    rw [made, List.flatMap_singleton] at member
    obtain ⟨call, -, found⟩ := List.mem_filterMap.mp member
    obtain ⟨_, -, -, rfl⟩ := Checker.finding?_eq_some_iff.mp found
    exact ⟨failure, rfl⟩

end File

section Files

variable (parse : Parse) (k : Checker) (d : Disk) (files : List Path)

theorem countP_outcomesBy :
    (files.flatMap fun f => outcomesBy parse k f (d.readText f)).countP (fun o => !o.findings.isEmpty) =
      files.countP fun f => !((outcomesBy parse k f (d.readText f)).flatMap Outcome.findings).isEmpty := by
  induction files with
  | nil => rfl
  | cons f files ih =>
    rw [List.flatMap_cons, List.countP_append, ih, List.countP_cons, Nat.add_comm, Nat.add_right_inj]
    cases fate parse k d f with
    | unread made | unparsed made =>
      rw [made]
      rfl
    | checked made => rw [made, List.flatMap_singleton, List.countP_singleton]

theorem totalCalls_outcomesBy :
    totalCalls (files.flatMap fun f => outcomesBy parse k f (d.readText f)) =
      ((files.filterMap (callsBy? parse d)).map List.length).sum := by
  induction files with
  | nil => rfl
  | cons f files ih =>
    rw [List.flatMap_cons, totalCalls_append, ih]
    cases fate parse k d f with
    | unread made _ _ calls => rw [made, List.filterMap_cons_none calls, totalCalls, Nat.zero_add]
    | unparsed made _ _ calls =>
      rw [made, List.filterMap_cons_none calls, totalCalls, totalCalls, Outcome.calls, Nat.zero_add]
    | checked made _ _ calls =>
      rw [made, List.filterMap_cons_some calls, List.map_cons, List.sum_cons]
      rfl

theorem length_findings_le :
    ((files.flatMap fun f => outcomesBy parse k f (d.readText f)).flatMap Outcome.findings).length ≤
      totalCalls (files.flatMap fun f => outcomesBy parse k f (d.readText f)) := by
  induction files with
  | nil => exact Nat.le_refl 0
  | cons f files ih =>
    rw [List.flatMap_cons, List.flatMap_append, List.length_append, totalCalls_append]
    refine Nat.add_le_add ?_ ih
    cases fate parse k d f with
    | unread made | unparsed made =>
      rw [made]
      exact Nat.le_refl 0
    | checked made =>
      rw [made, List.flatMap_singleton]
      exact List.length_filterMap_le _ _

theorem length_files :
    files.length = (files.filterMap (callsBy? parse d)).length +
      (files.filterMap (failureBy? parse d)).length + (files.filter (isUnreadable d)).length := by
  induction files with
  | nil => rfl
  | cons f files ih =>
    rw [List.length_cons, ih]
    -- what a file comes to does not hang on the checker
    cases fate parse ⟨[], .error⟩ d f with
    | unread _ text failure calls =>
      rw [List.filterMap_cons_none calls, List.filterMap_cons_none failure, List.filter_cons_of_pos text,
        List.length_cons]
      omega
    | unparsed _ text failure calls =>
      rw [List.filterMap_cons_none calls, List.filterMap_cons_some failure,
        List.filter_cons_of_neg (Bool.eq_false_iff.mp text), List.length_cons]
      omega
    | checked _ text failure calls =>
      rw [List.filterMap_cons_some calls, List.filterMap_cons_none failure,
        List.filter_cons_of_neg (Bool.eq_false_iff.mp text), List.length_cons]
      omega

end Files

section Run

variable {parse : Parse} {k : Checker} {d : Disk} {p : Path} {files : List Path} {r : Result} {g : Finding}

/-- The result of files, in a run over them. -/
def resultBy (parse : Parse) (k : Checker) (d : Disk) (files : List Path) : Result :=
  gather files.length (files.flatMap fun f => outcomesBy parse k f (d.readText f))

theorem analyzeBy_eq_ok_iff :
    analyzeBy parse k d p = .ok r ↔ ∃ files, d.discover p = .ok files ∧ resultBy parse k d files = r := by
  cases found : d.discover p with
  | error e => simp [analyzeBy_of_undiscovered found]
  | ok files => simp [analyzeBy_eq_gather found, resultBy]

theorem mem_findings_resultBy_iff :
    g ∈ (resultBy parse k d files).findings ↔
      ∃ f ∈ files, g ∈ (outcomesBy parse k f (d.readText f)).flatMap Outcome.findings := by
  rw [resultBy, gather, List.mem_mergeSort, List.flatMap_assoc, List.mem_flatMap]

theorem length_findings_resultBy :
    (resultBy parse k d files).findings.length =
      ((files.flatMap fun f => outcomesBy parse k f (d.readText f)).flatMap Outcome.findings).length := by
  rw [resultBy, gather, List.length_mergeSort]

theorem fate_of_mem_resultBy (member : g ∈ (resultBy parse k d files).findings) :
    g.file ∈ files ∧ failureBy? parse d g.file = none ∧ g.severity = k.severity := by
  obtain ⟨f, here, inside⟩ := mem_findings_resultBy_iff.mp member
  obtain rfl := file_of_mem_outcomesBy inside
  exact ⟨here, checked_of_mem inside⟩

end Run

end HookLint.Check
