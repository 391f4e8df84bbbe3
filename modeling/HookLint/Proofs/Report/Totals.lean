import HookLint.Proofs.Check.Reconciling
import HookLint.Proofs.Command.Status

/-! The totals at the end of a report. They are made of counts that are kept beside the lists; they are what a
reader finds who counts the printed problems. -/
namespace HookLint.Report

open HookLint.Check HookLint.Command HookLint.Files HookLint.Hook

/-- The totals of problems as they are printed. -/
def Totals.ofProblems (ps : List Problem) : Totals where
  problems := ps.length
  errors := ps.countP fun p => p.label = .error
  warnings := ps.countP fun p => p.label = .warning
  files := fileCount (ps.map Problem.file)

theorem Totals.errors_add_warnings (ps : List Problem) :
    (ofProblems ps).errors + (ofProblems ps).warnings = (ofProblems ps).problems := by
  simp only [ofProblems]
  induction ps with
  | nil => rfl
  | cons p ps ih =>
    rw [List.countP_cons, List.countP_cons, List.length_cons, ← ih]
    cases p.label
    all_goals
      simp only [decide_true, reduceCtorEq, decide_false, if_true, Bool.false_eq_true, if_false]
      omega

section Labels

theorem Label.ofSeverity_injective : Function.Injective Label.ofSeverity := by
  intro s s' same
  cases s <;> cases s' <;> first | rfl | cases same

theorem countP_findings (gs : List Finding) (s : Severity) :
    (gs.map Problem.ofFinding).countP (fun p => p.label = .ofSeverity s) = countOf s gs := by
  rw [List.countP_map, countOf]
  refine List.countP_congr fun g _ => ?_
  rw [Function.comp_apply, Problem.ofFinding, decide_eq_true_eq, beq_iff_eq,
    Label.ofSeverity_injective.eq_iff]

theorem countP_failures (fs : List ParseFailure) (l : Label) :
    (fs.map Problem.ofFailure).countP (fun p => p.label = l) = if l = .error then fs.length else 0 := by
  rw [List.countP_map]
  split
  · rename_i same
    exact List.countP_eq_length.mpr fun f _ => decide_eq_true same.symm
  · rename_i other
    exact List.countP_eq_zero.mpr fun f _ same => other (of_decide_eq_true same).symm

theorem errors_problems (r : Result) :
    (Totals.ofProblems (problems r)).errors = countOf .error r.findings + r.parseErrors.length := by
  calc (Totals.ofProblems (problems r)).errors
      = (problems r).countP fun p => p.label = .ofSeverity .error := rfl
    _ = countOf .error r.findings + r.parseErrors.length := by
      rw [problems, List.countP_append, countP_findings, countP_failures, Nat.add_comm]
      rfl

theorem warnings_problems (r : Result) :
    (Totals.ofProblems (problems r)).warnings = countOf .warn r.findings := by
  calc (Totals.ofProblems (problems r)).warnings
      = (problems r).countP fun p => p.label = .ofSeverity .warn := rfl
    _ = countOf .warn r.findings := by
      rw [problems, List.countP_append, countP_findings, countP_failures]
      exact Nat.zero_add _

end Labels

section Run

variable {parse : Parse} {k : Checker} {d : Disk} {p : Path} {files : List Path} {r : Result}

theorem fileCount_problems (whole : Reconciled parse k d files r) :
    (Totals.ofProblems (problems r)).files = (totals r).files := by
  have failures : fileCount (r.parseErrors.map ParseFailure.file) = r.parseErrors.length := by
    rw [fileCount_of_increasing (List.pairwise_map.mpr whole.increasing), List.length_map]
  have named : (problems r).map Problem.file =
      r.parseErrors.map ParseFailure.file ++ r.findings.map Finding.file := by
    rw [problems, List.map_append, List.map_map, List.map_map]
    rfl
  have apart : ∀ p ∈ r.parseErrors.map ParseFailure.file, ∀ q ∈ r.findings.map Finding.file,
      p.components ≠ q.components := by
    intro p hp q hq
    obtain ⟨e, he, rfl⟩ := List.mem_map.mp hp
    obtain ⟨g, hg, rfl⟩ := List.mem_map.mp hq
    exact (whole.apart g hg e he).symm
  rw [Totals.ofProblems, named, fileCount_append apart, failures, totals, whole.filesWithFindings,
    whole.parseErrorCount, Nat.add_comm]

/-- The totals of a report are those of the problems in it. -/
theorem totals_resultBy (increasing : files.Pairwise fun p q => p.key < q.key) :
    totals (resultBy parse k d files) = Totals.ofProblems (problems (resultBy parse k d files)) := by
  have count : (problems (resultBy parse k d files)).length = (totals (resultBy parse k d files)).problems := by
    rw [problems, List.length_append, List.length_map, List.length_map, Nat.add_comm, totals]
  have errors := errors_problems (resultBy parse k d files)
  have warnings := warnings_problems (resultBy parse k d files)
  have files := fileCount_problems (reconciled_resultBy parse k d increasing)
  rw [totals, Totals.ofProblems, Totals.mk.injEq]
  exact ⟨count.symm, errors.symm, warnings.symm, files.symm⟩

theorem isClean_gather_iff {totalFiles : Nat} {os : List Outcome} :
    (gather totalFiles os).isClean ↔ ∀ p ∈ problems (gather totalFiles os), p.label ≠ .error := by
  have none : (gather totalFiles os).isClean ↔ (Totals.ofProblems (problems (gather totalFiles os))).errors = 0 := by
    rw [errors_problems, Result.isClean, Bool.and_eq_true, beq_iff_eq, beq_iff_eq, Nat.add_eq_zero_iff]
    rfl
  rw [none, Totals.ofProblems, List.countP_eq_zero]
  exact forall₂_congr fun p _ => decide_eq_true_iff.not

theorem text_of_totals (same : totals r = Totals.ofProblems (problems r)) (shaded : Bool) :
    text shaded r = ended ((problems r).map (Problem.text shaded) ++
      let t := Totals.ofProblems (problems r)
      if problems r = [] then
        [paint shaded .green "No problems found" ++ " (" ++ toString r.summary.totalFiles ++ " files, " ++
          toString r.summary.callsChecked ++ " calls checked)"]
      else
        ["", paint shaded .red "✖" ++ " " ++ toString t.problems ++ " problems (" ++ toString t.errors ++
          " errors, " ++ toString t.warnings ++ " warnings) in " ++ toString t.files ++ " files"]) := by
  have none : (Totals.ofProblems (problems r)).problems = 0 ↔ problems r = [] := List.length_eq_zero_iff
  simp only [text, lines, closingLines, same, none]

end Run

/-- A report is an entry for each parse failure, one for each finding, and then how many of them there are. The
numbers are those of the entries above it. A run that ends with a report ends with status 0 if and only if no
entry is an error. -/
theorem report_truthful :
    (∀ k d p, analyze k d p = analyzeBy .reader k d p) ∧
      (∀ (parse : Parse) (d : Disk), d.WellFormed → ∀ k p r, analyzeBy parse k d p = .ok r →
        let entries := r.parseErrors.map Problem.ofFailure ++ r.findings.map Problem.ofFinding
        let problems := entries.length
        let errors := entries.countP fun e => e.label = .error
        let warnings := entries.countP fun e => e.label = .warning
        let files := fileCount (entries.map Problem.file)
        errors + warnings = problems ∧
          ∀ shaded, text shaded r = ended (entries.map (Problem.text shaded) ++
            if entries = [] then
              [paint shaded .green "No problems found" ++ " (" ++ toString r.summary.totalFiles ++ " files, " ++
                toString r.summary.callsChecked ++ " calls checked)"]
            else
              ["", paint shaded .red "✖" ++ " " ++ toString problems ++ " problems (" ++ toString errors ++
                " errors, " ++ toString warnings ++ " warnings) in " ++ toString files ++ " files"])) ∧
      ∀ ws o d c e shaded setting, Request.ofWords ws = .ok (.run o) → Effective d o (.ok c) →
        d.entry o.target = .ok e →
          let a := run d shaded setting ws
          ∃ r, analyze (.ofConfig c) d o.target = .ok r ∧ (o.json = false → a.output = text shaded r) ∧
            ((o.json → ∀ p ∈ r.paths, d.isText p) →
              (a.status = 0 ↔ ∀ e ∈ r.parseErrors.map Problem.ofFailure ++ r.findings.map Problem.ofFinding,
                e.label ≠ .error)) := by
  refine ⟨analyze_eq_analyzeBy, ?_, ?_⟩
  · intro parse d wf k p r ran entries problems errors warnings files
    obtain ⟨files, found, rfl⟩ := analyzeBy_eq_ok_iff.mp ran
    exact ⟨Totals.errors_add_warnings entries,
      text_of_totals (totals_resultBy (Disk.discover_increasing wf found))⟩
  · intro ws o d c e shaded setting accepted effective there a
    obtain ⟨files, found, -, printed⟩ := runBy_of_entry accepted effective there .reader shaded setting
    rw [← run_eq_runBy] at printed
    have ran : analyze (.ofConfig c) d o.target = .ok (resultBy .reader (.ofConfig c) d files) := by
      rw [analyze_eq_analyzeBy]
      exact analyzeBy_eq_ok_iff.mpr ⟨files, found, rfl⟩
    refine ⟨_, ran, ?_, ?_⟩
    · intro plain
      obtain ⟨-, output, -⟩ := printed fun json => absurd json (Bool.eq_false_iff.mp plain)
      rw [output, rendered, plain]
      rfl
    · intro text
      obtain ⟨exit, -, -⟩ := printed text
      exact (status_eq_zero_iff exit).trans isClean_gather_iff

/-- What the report of the mixed directory shows. -/
def mixedProblems : List Problem :=
  [⟨⟨"src/b.js"⟩, 1, 1, .error, "Parsing error, file not checked", none⟩,
    ⟨⟨"src/a.js"⟩, 1, 9, .error, "Only named functions are allowed in useMemo.", some "named-functions-in-hooks"⟩,
    ⟨⟨"src/a.js"⟩, 1, 25, .error, "Only named functions are allowed in useEffect.",
      some "named-functions-in-hooks"⟩]

theorem problems_mixed : problems (resultBy mixedParse usualChecker mixedFiles mixedPaths) = mixedProblems := by
  rw [problems, resultBy, gather, findingNotAfter_weak.mergeSort_eq_foldr, failureNotAfter_weak.mergeSort_eq_foldr]
  decide +kernel

def unreadOptions : Options := { path := some "src/c.js" }

theorem effective_unread : Effective mixedFiles unreadOptions (.ok {}) := by
  have file : mixedFiles.HasFile unreadOptions.target := Disk.isFile_iff.mp (by decide)
  have absent : ¬ mixedFiles.HasFile (unreadOptions.target.parent.join Config.fileName) :=
    Disk.isFile_iff.not.mp (by decide)
  have source : ConfigSource mixedFiles unreadOptions none := .notBeside rfl file absent
  have base : configFrom mixedFiles none = .ok {} := rfl
  exact .kept source base (fun _ member => nomatch member) rfl

theorem analyze_unread (k : Checker) : analyze k mixedFiles ⟨"src/c.js"⟩ = .ok (gather 1 []) := by
  have there : mixedFiles.entry ⟨"src/c.js"⟩ = .ok (.file ⟨#[255]⟩) := by rfl
  have unread : mixedFiles.readText ⟨"src/c.js"⟩ = .error .notText := by rfl
  rw [analyze_of_file k (Disk.discover_file there), fileResult, unread, outcomesBy_error]

theorem report_truthful_mixed :
    (∃ r, analyzeBy mixedParse usualChecker mixedFiles ⟨"src"⟩ = .ok r ∧
      text false r =
        "src/b.js:1:1 error Parsing error, file not checked\n" ++
        "src/a.js:1:9 error Only named functions are allowed in useMemo. named-functions-in-hooks\n" ++
        "src/a.js:1:25 error Only named functions are allowed in useEffect. named-functions-in-hooks\n" ++
        "\n✖ 3 problems (3 errors, 0 warnings) in 2 files\n") ∧
      (run mixedFiles false none ["src/c.js"]).status = 0 ∧
      (run mixedFiles false none ["src/c.js"]).output = "No problems found (1 files, 0 calls checked)\n" := by
  obtain ⟨same, printed, ended⟩ := report_truthful
  have entries := problems_mixed
  rw [problems] at entries
  obtain ⟨-, mixed⟩ := printed _ _ mixedFiles_wellFormed _ _ _ mixedFiles_analyze
  have accepted : Request.ofWords ["src/c.js"] = .ok (.run unreadOptions) := by rfl
  obtain ⟨r, ran, output, zero⟩ := ended _ _ _ _ _ false none accepted effective_unread rfl
  obtain rfl := Except.ok.inj (ran.symm.trans (analyze_unread _))
  obtain ⟨-, unread⟩ := printed .reader _ mixedFiles_wellFormed _ _ _ ((same _ _ _).symm.trans ran)
  have none : (gather 1 []).parseErrors.map Problem.ofFailure ++ (gather 1 []).findings.map Problem.ofFinding =
      [] := by
    simp [gather]
  refine ⟨⟨_, mixedFiles_analyze, ?_⟩, ?_, ?_⟩
  · rw [mixed, entries]
    decide +kernel
  · rw [zero fun json => absurd json (by decide), none]
    exact List.forall_mem_nil _
  · rw [output rfl, unread, none]
    decide +kernel

end HookLint.Report
