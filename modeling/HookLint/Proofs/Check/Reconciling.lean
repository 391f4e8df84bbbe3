import HookLint.Proofs.Check.Counting
import HookLint.Proofs.Check.DocumentOrder
import Mathlib.Data.Finset.Card

/-! How the counts of a result go with its lists. They are kept while outcomes are gathered; since an outcome
names its file, and no other outcome names it, they are also the counts of files, findings and failures. -/
namespace HookLint.Check

open HookLint.Files HookLint.Hook HookLint.Tree

/-- The number of different files. A file may be spelled in more ways than one. -/
def fileCount (ps : List Path) : Nat := (ps.map Path.components).toFinset.card

def Summary.count (s : Summary) : Severity → Nat
  | .error => s.errorCount
  | .warn => s.warningCount

/-- The counts of a result are those of its lists and of the files. -/
structure Reconciled (parse : Parse) (k : Checker) (d : Disk) (files : List Path) (r : Result) : Prop where
  findings : r.summary.errorCount + r.summary.warningCount = r.findings.length
  severity : ∀ s, r.summary.count s = if s = k.severity then r.findings.length else 0
  filesWithFindings : r.summary.filesWithFindings = fileCount (r.findings.map Finding.file)
  parseErrors : r.parseErrors = files.filterMap (failureBy? parse d)
  parseErrorCount : r.summary.parseErrorCount = r.parseErrors.length
  increasing : r.parseErrors.Pairwise fun a b => a.file.byteKey < b.file.byteKey
  apart : ∀ g ∈ r.findings, ∀ e ∈ r.parseErrors, g.file.components ≠ e.file.components
  findings_found : ∀ g ∈ r.findings, g.file ∈ files
  parseErrors_found : ∀ e ∈ r.parseErrors, e.file ∈ files
  callsChecked : r.summary.callsChecked = ((files.filterMap (callsBy? parse d)).map List.length).sum
  findings_le : r.findings.length ≤ r.summary.callsChecked
  totalFiles : r.summary.totalFiles = files.length
  parts : r.summary.totalFiles =
    (files.filterMap (callsBy? parse d)).length + r.parseErrors.length + (files.filter (isUnreadable d)).length

section Files

theorem fileCount_eq_countP {ps files : List Path} {keep : Path → Bool}
    (increasing : files.Pairwise fun p q => p.key < q.key)
    (named : ∀ p, p ∈ ps ↔ p ∈ files ∧ keep p) : fileCount ps = files.countP keep := by
  have distinct : ((files.filter keep).map Path.components).Nodup := by
    refine List.pairwise_map.mpr ((increasing.filter keep).imp ?_)
    intro p q before same
    exact before.ne (Path.key_eq_iff.mpr same)
  have same : (ps.map Path.components).toFinset = ((files.filter keep).map Path.components).toFinset := by
    ext c
    simp only [List.mem_toFinset, List.mem_map, List.mem_filter, named]
  rw [fileCount, same, List.toFinset_card_of_nodup distinct, List.length_map, List.countP_eq_length_filter]

/-- Files in strict order are all different. -/
theorem fileCount_of_increasing {ps : List Path} (increasing : ps.Pairwise fun p q => p.byteKey < q.byteKey) :
    fileCount ps = ps.length := by
  have keys : ps.Pairwise fun p q => p.key < q.key := increasing.imp Path.byteKey_lt_iff.mp
  have named : ∀ p, p ∈ ps ↔ p ∈ ps ∧ (fun _ : Path => true) p := fun p => (and_iff_left rfl).symm
  rw [fileCount_eq_countP keys named, List.countP_true]

theorem fileCount_append {ps qs : List Path} (apart : ∀ p ∈ ps, ∀ q ∈ qs, p.components ≠ q.components) :
    fileCount (ps ++ qs) = fileCount ps + fileCount qs := by
  rw [fileCount, List.map_append, List.toFinset_append, Finset.card_union_of_disjoint]
  · rfl
  · rw [List.disjoint_toFinset_iff_disjoint]
    intro c left right
    obtain ⟨p, hp, rfl⟩ := List.mem_map.mp left
    obtain ⟨q, hq, same⟩ := List.mem_map.mp right
    exact apart p hp q hq same.symm

end Files

section Run

variable {parse : Parse} {k : Checker} {d : Disk} {p : Path} {files : List Path} {r : Result}

theorem failures_increasing (increasing : files.Pairwise fun p q => p.key < q.key) :
    (files.filterMap (failureBy? parse d)).Pairwise fun a b => a.file.byteKey < b.file.byteKey := by
  refine List.pairwise_filterMap.mpr (increasing.imp ?_)
  intro p q before a failed b failed'
  rw [file_of_failureBy? failed, file_of_failureBy? failed']
  exact Path.byteKey_lt_iff.mpr before

theorem parseErrors_resultBy (increasing : files.Pairwise fun p q => p.key < q.key) :
    (resultBy parse k d files).parseErrors = files.filterMap (failureBy? parse d) := by
  simp only [resultBy, gather, List.flatMap_assoc, flatMap_failures, ← List.filterMap_eq_flatMap_toList]
  refine List.mergeSort_of_pairwise ((failures_increasing increasing).imp ?_)
  intro a b before
  exact Path.notAfter_iff.mpr (Path.byteKey_lt_iff.mp before).le

theorem count_resultBy (s : Severity) :
    (resultBy parse k d files).summary.count s =
      if s = k.severity then (resultBy parse k d files).findings.length else 0 := by
  rw [← countOf_of_labelled fun g member => (fate_of_mem_resultBy member).2.2]
  cases s <;> rfl

theorem filesWithFindings_resultBy (increasing : files.Pairwise fun p q => p.key < q.key) :
    (resultBy parse k d files).summary.filesWithFindings =
      fileCount ((resultBy parse k d files).findings.map Finding.file) := by
  have named : ∀ p, p ∈ (resultBy parse k d files).findings.map Finding.file ↔
      p ∈ files ∧ !((outcomesBy parse k p (d.readText p)).flatMap Outcome.findings).isEmpty := by
    intro p
    rw [List.mem_map, Bool.not_eq_true', List.isEmpty_eq_false_iff_exists_mem]
    constructor
    · rintro ⟨g, member, rfl⟩
      obtain ⟨f, here, inside⟩ := mem_findings_resultBy_iff.mp member
      obtain rfl := file_of_mem_outcomesBy inside
      exact ⟨here, g, inside⟩
    · rintro ⟨here, g, inside⟩
      exact ⟨g, mem_findings_resultBy_iff.mpr ⟨p, here, inside⟩, file_of_mem_outcomesBy inside⟩
  rw [fileCount_eq_countP increasing named]
  exact countP_outcomesBy parse k d files

theorem file_of_mem_failures {e : ParseFailure} (member : e ∈ files.filterMap (failureBy? parse d)) :
    e.file ∈ files ∧ failureBy? parse d e.file = some e := by
  obtain ⟨f, here, failed⟩ := List.mem_filterMap.mp member
  obtain rfl := file_of_failureBy? failed
  exact ⟨here, failed⟩

/-- Files in strict order are one file if they have the same components. -/
theorem eq_of_components_eq (increasing : files.Pairwise fun p q => p.key < q.key) {p q : Path} (hp : p ∈ files)
    (hq : q ∈ files) (same : p.components = q.components) : p = q := by
  by_contra other
  have : Std.Symm fun p q : Path => p.key ≠ q.key := ⟨fun _ _ differ => differ.symm⟩
  exact (increasing.imp ne_of_lt).forall hp hq other (Path.key_eq_iff.mpr same)

theorem reconciled_resultBy (parse : Parse) (k : Checker) (d : Disk)
    (increasing : files.Pairwise fun p q => p.key < q.key) :
    Reconciled parse k d files (resultBy parse k d files) where
  findings := by
    change (resultBy parse k d files).summary.count .error + (resultBy parse k d files).summary.count .warn = _
    rw [count_resultBy, count_resultBy]
    cases k.severity <;> simp
  severity := count_resultBy
  filesWithFindings := filesWithFindings_resultBy increasing
  parseErrors := parseErrors_resultBy increasing
  parseErrorCount := rfl
  increasing := by
    rw [parseErrors_resultBy increasing]
    exact failures_increasing increasing
  apart := by
    intro g hg e he same
    rw [parseErrors_resultBy increasing] at he
    obtain ⟨there, parses, -⟩ := fate_of_mem_resultBy hg
    obtain ⟨here, failed⟩ := file_of_mem_failures he
    rw [eq_of_components_eq increasing there here same, failed] at parses
    cases parses
  findings_found := fun g member => (fate_of_mem_resultBy member).1
  parseErrors_found := by
    intro e member
    rw [parseErrors_resultBy increasing] at member
    exact (file_of_mem_failures member).1
  callsChecked := totalCalls_outcomesBy parse k d files
  findings_le := by
    rw [length_findings_resultBy]
    exact length_findings_le parse k d files
  totalFiles := rfl
  parts := by
    rw [parseErrors_resultBy increasing]
    exact length_files parse d files

end Run

/-- After a run over a path, the counts of the result are those of its lists and of the files below the path.
Each count of a severity is of all findings or of none, every list names files that were found, and no file is
in two of them. -/
theorem summary_reconciles :
    (∀ k d p, analyze k d p = analyzeBy .reader k d p) ∧
      ∀ (parse : Parse) (d : Disk), d.WellFormed → ∀ k p r, analyzeBy parse k d p = .ok r →
        ∃ files, d.discover p = .ok files ∧ Reconciled parse k d files r := by
  refine ⟨analyze_eq_analyzeBy, ?_⟩
  intro parse d wf k p r ran
  obtain ⟨files, found, rfl⟩ := analyzeBy_eq_ok_iff.mp ran
  exact ⟨files, found, reconciled_resultBy parse k d (Disk.discover_increasing wf found)⟩

/-- A directory with a file to check, one that does not parse and one that is no text. -/
def mixedFiles : Disk :=
  ((Disk.empty.mount ⟨"src/c.js"⟩ (.file ⟨#[255]⟩)).mount ⟨"src/b.js"⟩ (.file "useMemo(".toUTF8)).mount
    ⟨"src/a.js"⟩ (.file nestedText.toUTF8)

def faultyTree : Node :=
  .mk { kind := "ERROR", named := true, isError := true, hasError := true, span := ⟨0, 8, 1, 1⟩ } []

def mixedParse : Parse := fun _ source => if source = nestedText then nestedTree else faultyTree

theorem mixedFiles_wellFormed : mixedFiles.WellFormed :=
  ((Disk.wellFormed_empty.mount (.file _)).mount (.file _)).mount (.file _)

def mixedPaths : List Path := [⟨"src/a.js"⟩, ⟨"src/b.js"⟩, ⟨"src/c.js"⟩]

theorem mixedFiles_discover : mixedFiles.discover ⟨"src"⟩ = .ok mixedPaths := by
  have listed : mixedFiles.entry ⟨"src"⟩ = .ok (.directory [("c.js", .file ⟨#[255]⟩),
      ("b.js", .file "useMemo(".toUTF8), ("a.js", .file nestedText.toUTF8)]) := by
    rfl
  exact Disk.discover_of_listed listed (by decide)

theorem mixedFiles_analyze : analyzeBy mixedParse usualChecker mixedFiles ⟨"src"⟩ =
    .ok (resultBy mixedParse usualChecker mixedFiles mixedPaths) :=
  analyzeBy_eq_ok_iff.mpr ⟨_, mixedFiles_discover, rfl⟩

theorem length_findings_mixed :
    (resultBy mixedParse usualChecker mixedFiles mixedPaths).findings.length = 2 := by
  rw [length_findings_resultBy]
  decide +kernel

theorem summary_reconciles_mixed :
    ∃ r, analyzeBy mixedParse usualChecker mixedFiles ⟨"src"⟩ = .ok r ∧
      Reconciled mixedParse usualChecker mixedFiles mixedPaths r ∧
      r.findings.length = 2 ∧ r.parseErrors = [⟨⟨"src/b.js"⟩, 1, 1⟩] ∧
      r.summary.errorCount = 2 ∧ r.summary.callsChecked = 2 ∧ r.summary.totalFiles = 3 := by
  obtain ⟨files, found, whole⟩ := summary_reconciles.2 _ _ mixedFiles_wellFormed _ _ _ mixedFiles_analyze
  obtain rfl := Except.ok.inj (found.symm.trans mixedFiles_discover)
  have failures : mixedPaths.filterMap (failureBy? mixedParse mixedFiles) = [⟨⟨"src/b.js"⟩, 1, 1⟩] := by
    decide +kernel
  have calls : ((mixedPaths.filterMap (callsBy? mixedParse mixedFiles)).map List.length).sum = 2 := by
    decide +kernel
  exact ⟨_, mixedFiles_analyze, whole, length_findings_mixed, whole.parseErrors.trans failures,
    (whole.severity .error).trans length_findings_mixed, whole.callsChecked.trans calls, whole.totalFiles⟩

end HookLint.Check
