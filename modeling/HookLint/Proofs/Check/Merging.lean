import HookLint.Proofs.Check.Gathering

/-! The result of a directory is made of the results of its files, each of which comes from the path
and the text of the file alone. -/
namespace HookLint.Check

open HookLint.Files HookLint.Hook

/-- The result of one file, by its path and its text. -/
def fileResult (k : Checker) (file : Path) (text : Except FileError String) : Result :=
  gather 1 (outcomesBy .reader k file text)

theorem analyze_of_undiscovered (k : Checker) {d : Disk} {p : Path} {e : AccessError}
    (found : d.discover p = .error e) : analyze k d p = .error e := by
  rw [analyze_eq_analyzeBy, analyzeBy_of_undiscovered found]

theorem analyze_eq_gather (k : Checker) {d : Disk} {p : Path} {files : List Path}
    (found : d.discover p = .ok files) : analyze k d p =
      .ok (gather files.length (files.flatMap fun f => outcomesBy .reader k f (d.readText f))) := by
  rw [analyze_eq_analyzeBy, analyzeBy_eq_gather found]

theorem analyze_of_file (k : Checker) {d : Disk} {f : Path} (found : d.discover f = .ok [f]) :
    analyze k d f = .ok (fileResult k f (d.readText f)) := by
  rw [analyze_eq_gather k found, List.flatMap_singleton, fileResult, List.length_singleton]

theorem analyze_eq_concat (k : Checker) {d : Disk} {p : Path} {files : List Path} (wf : d.WellFormed)
    (found : d.discover p = .ok files) :
    analyze k d p = .ok (Result.concat (files.map fun f => fileResult k f (d.readText f))) := by
  have increasing := Disk.discover_increasing wf found
  have own : ∀ f ∈ files, ∀ o ∈ outcomesBy .reader k f (d.readText f), o.Concerns f :=
    fun f _ o member => outcomesBy_concerns member
  rw [analyze_eq_gather k found, gather_flatMap _ increasing own]
  rfl

theorem file_of_mem_findings {k : Checker} {file : Path} {text : Except FileError String} {g : Finding}
    (member : g ∈ (fileResult k file text).findings) : g.file = file := by
  rw [fileResult, gather, List.mem_mergeSort] at member
  exact file_of_mem_outcomesBy member

theorem gather_sorted (totalFiles : Nat) (os : List Outcome) :
    (gather totalFiles os).findings.Pairwise fun a b => place a ≤ place b := by
  have sorted := List.pairwise_mergeSort findingNotAfter_weak.trans findingNotAfter_weak.total
    (os.flatMap Outcome.findings)
  exact sorted.imp findingNotAfter_iff.mp

/-- Of things in files one after another, those of one file are what the file has. -/
theorem filter_flatMap_of_file {α : Type} {file : α → Path} {files : List Path} {f : Path → List α}
    (distinct : files.Nodup) (own : ∀ p ∈ files, ∀ a ∈ f p, file a = p) {p : Path} (member : p ∈ files) :
    (files.flatMap f).filter (fun a => file a = p) = f p := by
  induction files with
  | nil => cases member
  | cons q files ih =>
    obtain ⟨fresh, distinct⟩ := List.nodup_cons.mp distinct
    have ownRest : ∀ r ∈ files, ∀ a ∈ f r, file a = r := fun r hr => own r (List.mem_cons_of_mem q hr)
    rw [List.flatMap_cons, List.filter_append]
    rcases List.mem_cons.mp member with rfl | member
    · have front : (f p).filter (fun a => file a = p) = f p := by
        refine List.filter_eq_self.mpr ?_
        intro a ha
        exact decide_eq_true (own p List.mem_cons_self a ha)
      have back : (files.flatMap f).filter (fun a => file a = p) = [] := by
        refine List.filter_eq_nil_iff.mpr ?_
        intro a ha same
        obtain ⟨r, hr, inside⟩ := List.mem_flatMap.mp ha
        have there : r = p := (ownRest r hr a inside).symm.trans (of_decide_eq_true same)
        exact fresh (there ▸ hr)
      rw [front, back, List.append_nil]
    · have front : (f q).filter (fun a => file a = p) = [] := by
        refine List.filter_eq_nil_iff.mpr ?_
        intro a ha same
        have there : q = p := (own q List.mem_cons_self a ha).symm.trans (of_decide_eq_true same)
        exact fresh (there ▸ member)
      rw [front, List.nil_append, ih distinct ownRest member]

/-- A directory gives what its files give one after another, in the order of their paths. The findings
are in order, and those that name a file are the ones that the file has by itself. -/
theorem analyze_merges_files (k : Checker) {d : Disk} {p : Path} {files : List Path} (wf : d.WellFormed)
    (found : d.discover p = .ok files) :
    (∀ f ∈ files, analyze k d f = .ok (fileResult k f (d.readText f))) ∧
      ∃ whole, analyze k d p = .ok whole ∧
        whole = Result.concat (files.map fun f => fileResult k f (d.readText f)) ∧
        whole.findings.Pairwise (fun a b => place a ≤ place b) ∧
        (∀ g ∈ whole.findings, g.file ∈ files) ∧
        ∀ f ∈ files, whole.findings.filter (fun g => g.file = f) =
          (fileResult k f (d.readText f)).findings := by
  have whole := analyze_eq_concat k wf found
  have findings : (Result.concat (files.map fun f => fileResult k f (d.readText f))).findings =
      files.flatMap fun f => (fileResult k f (d.readText f)).findings := by
    rw [Result.concat, List.flatMap_map]
  have own : ∀ f ∈ files, ∀ g ∈ (fileResult k f (d.readText f)).findings, g.file = f :=
    fun f _ g member => file_of_mem_findings member
  refine ⟨?_, _, whole, rfl, ?_, ?_, ?_⟩
  · intro f member
    exact analyze_of_file k (Disk.discover_again wf found member)
  · -- the findings of the files one after another are those that one sort of all leaves
    have gathered := (analyze_eq_gather k found).symm.trans whole
    rw [← Except.ok.inj gathered]
    exact gather_sorted _ _
  · intro g member
    rw [findings] at member
    obtain ⟨f, inside, there⟩ := List.mem_flatMap.mp member
    exact own f inside g there ▸ inside
  · intro f member
    have distinct : files.Nodup := by
      refine (Disk.discover_increasing wf found).imp ?_
      intro a b before same
      exact before.ne (congrArg Path.key same)
    rw [findings]
    exact filter_flatMap_of_file distinct own member

/-- A directory with two files, the later name put there first. -/
def twoFiles : Disk :=
  (Disk.empty.mount ⟨"src/b.ts"⟩ (.file "useMemo(() => 1);".toUTF8)).mount ⟨"src/a.js"⟩
    (.file "useCallback(() => 2);".toUTF8)

theorem twoFiles_wellFormed : twoFiles.WellFormed :=
  (Disk.wellFormed_empty.mount (.file _)).mount (.file _)

theorem twoFiles_discover : twoFiles.discover ⟨"src"⟩ = .ok [⟨"src/a.js"⟩, ⟨"src/b.ts"⟩] := by
  have listed : twoFiles.entry ⟨"src"⟩ = .ok (.directory
      [("b.ts", .file "useMemo(() => 1);".toUTF8), ("a.js", .file "useCallback(() => 2);".toUTF8)]) := by
    rfl
  exact Disk.discover_of_listed listed (by decide)

def memoChecker : Checker := ⟨["useMemo"], .error⟩

theorem analyze_twoFiles : analyze memoChecker twoFiles ⟨"src"⟩ = .ok (Result.concat
    [fileResult memoChecker ⟨"src/a.js"⟩ (twoFiles.readText ⟨"src/a.js"⟩),
      fileResult memoChecker ⟨"src/b.ts"⟩ (twoFiles.readText ⟨"src/b.ts"⟩)]) := by
  obtain ⟨-, whole, ran, same, -⟩ :=
    analyze_merges_files memoChecker twoFiles_wellFormed twoFiles_discover
  rw [ran, same]
  rfl

end HookLint.Check
