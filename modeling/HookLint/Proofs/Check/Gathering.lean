import HookLint.Proofs.Check.Alone
import HookLint.Proofs.Files.Discovery
import Mathlib.Algebra.Ring.Nat
import Mathlib.Data.Prod.Lex

/-! How outcomes become a result. The result of files in order is made of the results of the files, and
the order in which outcomes of different files come is lost. -/
namespace HookLint.Check

open HookLint.Files HookLint.Hook HookLint.Order

def place (g : Finding) : List (List Nat) ×ₗ Nat ×ₗ Nat := toLex (g.file.key, toLex (g.line, g.column))

theorem findingNotAfter_iff {a b : Finding} : findingNotAfter a b ↔ place a ≤ place b := by
  rw [place, place, Prod.Lex.toLex_le_toLex, Prod.Lex.toLex_le_toLex, findingNotAfter]
  by_cases file : a.file.key = b.file.key
  · have notBefore : ¬ a.file.key < b.file.key := file ▸ lt_irrefl _
    by_cases line : a.line = b.line
    · simp only [file, line, if_true, decide_eq_true_eq, lt_irrefl, false_or, true_and]
    · simp only [file, line, if_true, if_false, decide_eq_true_eq, lt_irrefl, false_or, true_and,
        false_and, or_false]
  · simp only [file, if_false, decide_eq_true_eq, false_and, or_false]

theorem findingNotAfter_weak : IsWeakOrder findingNotAfter where
  trans := by
    intro a b c ab bc
    exact findingNotAfter_iff.mpr ((findingNotAfter_iff.mp ab).trans (findingNotAfter_iff.mp bc))
  total := by
    intro a b
    rw [Bool.or_eq_true, findingNotAfter_iff, findingNotAfter_iff]
    exact le_total (place a) (place b)

theorem failureNotAfter_weak : IsWeakOrder failureNotAfter where
  trans := fun _ _ _ ab bc => notAfter_weak.trans _ _ _ ab bc
  total := fun a b => notAfter_weak.total a.file b.file

/-- An order that puts things of different files in the order of the files. -/
structure ByFile {α : Type} (le : α → α → Bool) (file : α → Path) : Prop where
  weak : IsWeakOrder le
  before_iff : ∀ a b, (file a).key ≠ (file b).key → (le a b ↔ (file a).key < (file b).key)

theorem findings_byFile : ByFile findingNotAfter Finding.file where
  weak := findingNotAfter_weak
  before_iff := by
    intro a b other
    rw [findingNotAfter, if_neg other, decide_eq_true_eq]

theorem failures_byFile : ByFile failureNotAfter ParseFailure.file where
  weak := failureNotAfter_weak
  before_iff := by
    intro a b other
    rw [failureNotAfter, Path.notAfter_iff]
    exact ⟨fun h => lt_of_le_of_ne h other, le_of_lt⟩

namespace ByFile

variable {α : Type} {le : α → α → Bool} {file : α → Path}

theorem mergeSort_flatMap (order : ByFile le file) {files : List Path} (f : Path → List α)
    (increasing : files.Pairwise fun p q => p.key < q.key)
    (own : ∀ p ∈ files, ∀ a ∈ f p, file a = p) :
    (files.flatMap f).mergeSort le = files.flatMap fun p => (f p).mergeSort le := by
  refine order.weak.mergeSort_flatMap f files (increasing.imp_of_mem ?_)
  intro p q hp hq before a ha b hb
  rw [← own p hp a ha, ← own q hq b hb] at before
  exact (order.before_iff a b before.ne).mpr before

theorem apart (order : ByFile le file) {a b : α} (other : (file a).key ≠ (file b).key) :
    IsWeakOrder.Apart le a b := by
  intro same
  rcases lt_or_gt_of_ne other with before | after
  · have ab := (order.before_iff a b other).mpr before
    have ba := (order.before_iff b a other.symm).mp (same ▸ ab)
    exact lt_asymm before ba
  · have ba := (order.before_iff b a other.symm).mpr after
    have ab := (order.before_iff a b other).mp (same.symm ▸ ba)
    exact lt_asymm after ab

theorem mergeSort_outcomes (order : ByFile le file) (items : Outcome → List α) {files : List Path}
    {outcomes : Path → List Outcome} (increasing : files.Pairwise fun p q => p.key < q.key)
    (own : ∀ p ∈ files, ∀ o ∈ outcomes p, ∀ a ∈ items o, file a = p) :
    ((files.flatMap outcomes).flatMap items).mergeSort le =
      files.flatMap fun p => ((outcomes p).flatMap items).mergeSort le := by
  rw [List.flatMap_assoc]
  refine order.mergeSort_flatMap _ increasing ?_
  intro p hp a ha
  obtain ⟨o, ho, inside⟩ := List.mem_flatMap.mp ha
  exact own p hp o ho a inside

theorem mergeSort_perm (order : ByFile le file) (items : Outcome → List α) {os os' : List Outcome}
    (same : os.Perm os')
    (apart : ∀ o ∈ os, ∀ o' ∈ os, o ≠ o' → ∀ a ∈ items o, ∀ b ∈ items o', (file a).key ≠ (file b).key) :
    (os.flatMap items).mergeSort le = (os'.flatMap items).mergeSort le := by
  refine order.weak.mergeSort_flatMap_perm items same ?_
  intro o ho o' ho' other a ha b hb
  exact order.apart (apart o ho o' ho' other a ha b hb)

end ByFile

theorem totalCalls_append (os os' : List Outcome) :
    totalCalls (os ++ os') = totalCalls os + totalCalls os' := by
  induction os with
  | nil => rw [List.nil_append, totalCalls, Nat.zero_add]
  | cons o os ih => rw [List.cons_append, totalCalls, totalCalls, ih, Nat.add_assoc]

theorem totalCalls_flatMap (files : List Path) (outcomes : Path → List Outcome) :
    totalCalls (files.flatMap outcomes) = (files.map fun p => totalCalls (outcomes p)).sum := by
  induction files with
  | nil => rfl
  | cons p files ih => rw [List.flatMap_cons, totalCalls_append, ih, List.map_cons, List.sum_cons]

def Summary.sum (ss : List Summary) : Summary where
  totalFiles := (ss.map Summary.totalFiles).sum
  filesWithFindings := (ss.map Summary.filesWithFindings).sum
  callsChecked := (ss.map Summary.callsChecked).sum
  errorCount := (ss.map Summary.errorCount).sum
  warningCount := (ss.map Summary.warningCount).sum
  parseErrorCount := (ss.map Summary.parseErrorCount).sum

def Result.concat (rs : List Result) : Result where
  findings := rs.flatMap Result.findings
  parseErrors := rs.flatMap Result.parseErrors
  summary := Summary.sum (rs.map Result.summary)

/-- The result of files in order is made of the results of the files. -/
theorem gather_flatMap {files : List Path} (outcomes : Path → List Outcome)
    (increasing : files.Pairwise fun p q => p.key < q.key)
    (own : ∀ p ∈ files, ∀ o ∈ outcomes p, o.Concerns p) :
    gather files.length (files.flatMap outcomes) =
      Result.concat (files.map fun p => gather 1 (outcomes p)) := by
  have findings := findings_byFile.mergeSort_outcomes Outcome.findings increasing
    fun p hp o ho => (own p hp o ho).findings
  have failures := failures_byFile.mergeSort_outcomes Outcome.failures increasing
    fun p hp o ho => (own p hp o ho).failures
  have total : files.length = (files.map fun _ => 1).sum := by simp
  simp only [gather, findings, failures, totalCalls_flatMap, Result.concat, Summary.sum, countOf,
    List.map_map, List.countP_flatMap, List.length_flatMap, List.flatMap_map]
  rw [total]
  rfl

theorem totalCalls_perm {os os' : List Outcome} (same : os.Perm os') : totalCalls os = totalCalls os' := by
  induction same with
  | nil => rfl
  | cons o _ ih => rw [totalCalls, totalCalls, ih]
  | swap o o' os =>
    simp only [totalCalls]
    omega
  | trans _ _ ih ih' => exact ih.trans ih'

def Unshared (o o' : Outcome) : Prop :=
  o = o' ∨ ∃ p q : Path, p.key ≠ q.key ∧ o.Concerns p ∧ o'.Concerns q

theorem gather_perm (totalFiles : Nat) {os os' : List Outcome} (same : os.Perm os')
    (unshared : ∀ o ∈ os, ∀ o' ∈ os, Unshared o o') : gather totalFiles os = gather totalFiles os' := by
  have findings := findings_byFile.mergeSort_perm Outcome.findings same (by
    intro o ho o' ho' other a ha b hb
    obtain ⟨p, q, apart, own, own'⟩ := (unshared o ho o' ho').resolve_left other
    rw [own.findings a ha, own'.findings b hb]
    exact apart)
  have failures := failures_byFile.mergeSort_perm Outcome.failures same (by
    intro o ho o' ho' other a ha b hb
    obtain ⟨p, q, apart, own, own'⟩ := (unshared o ho o' ho').resolve_left other
    rw [own.failures a ha, own'.failures b hb]
    exact apart)
  have withFindings : os.countP (fun o => !o.findings.isEmpty) = os'.countP fun o => !o.findings.isEmpty :=
    same.countP_eq _
  simp only [gather, findings, failures, withFindings, totalCalls_perm same]

end HookLint.Check
