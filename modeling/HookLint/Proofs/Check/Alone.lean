import HookLint.Check.Result
import HookLint.Proofs.Check.Traversal

/-! What comes of a source is decided by its path and its text. The reader brings in nothing: whatever
it has read before, its grammar is the one of the language that it notes. -/
namespace HookLint

namespace SourceReader

/-- The grammar that is loaded is the one of the language that is noted. -/
def Faithful (r : SourceReader) : Prop := r.loaded = r.language.map Language.dialect

theorem fresh_faithful : fresh.Faithful := rfl

theorem Faithful.switch {r : SourceReader} (faithful : r.Faithful) (l : Language) :
    (r.switch l).Faithful := by
  unfold SourceReader.switch
  split
  · exact faithful
  · rfl

def afterAll (history : List Language) : SourceReader := history.foldl switch fresh

theorem Faithful.foldl {r : SourceReader} (faithful : r.Faithful) (history : List Language) :
    (history.foldl SourceReader.switch r).Faithful := by
  induction history generalizing r with
  | nil => exact faithful
  | cons l history ih => exact ih (faithful.switch l)

theorem afterAll_faithful (history : List Language) : (afterAll history).Faithful :=
  fresh_faithful.foldl history

theorem language_switch (r : SourceReader) (l : Language) : (r.switch l).language = some l := by
  unfold switch
  split
  · assumption
  · rfl

theorem Faithful.tree?_switch {r : SourceReader} (faithful : r.Faithful) (l : Language)
    (source : String) : (r.switch l).tree? source = some (Reader.readTree l.dialect source.toList) := by
  have loaded : (r.switch l).loaded = some l.dialect := by
    rw [faithful.switch l, language_switch, Option.map_some]
  rw [tree?, loaded, Option.map_some]

end SourceReader

namespace Check

open HookLint.Files HookLint.Hook HookLint.Text HookLint.Tree

/-- What comes of a source when nothing was read before it. -/
def checkAlone (k : Checker) (file : Path) (source : String) : Outcome :=
  checkTree k file source (Parse.reader (Language.ofPath file) source)

theorem checkSource_eq (k : Checker) {r : SourceReader} (faithful : r.Faithful) (file : Path)
    (source : String) :
    checkSource k r file source = (some (checkAlone k file source), r.switch (Language.ofPath file)) := by
  rw [checkSource, faithful.tree?_switch, Option.map_some, checkAlone, Parse.reader]

theorem checkSources_eq_map (k : Checker) {r : SourceReader} (faithful : r.Faithful)
    (sources : List (Path × String)) :
    checkSources k r sources = sources.map fun s => checkAlone k s.1 s.2 := by
  induction sources generalizing r with
  | nil => rfl
  | cons s sources ih =>
    rw [checkSources, checkSource_eq k faithful]
    exact congrArg (checkAlone k s.1 s.2 :: ·) (ih (faithful.switch _))

theorem checkFile_of_unreadable (k : Checker) {d : Disk} (r : SourceReader) {file : Path} {e : FileError}
    (text : d.readText file = .error e) : checkFile k d r file = (some (.unreadable file e), r) := by
  rw [checkFile, text]

theorem checkFile_of_text (k : Checker) {d : Disk} {r : SourceReader} (faithful : r.Faithful)
    {file : Path} {source : String} (text : d.readText file = .ok source) :
    checkFile k d r file =
      (some (.read file (checkAlone k file source)), r.switch (Language.ofPath file)) := by
  simp only [checkFile, text, checkSource_eq k faithful, Option.map_some]

theorem checkFiles_eq_map (k : Checker) (d : Disk) {r : SourceReader} (faithful : r.Faithful)
    (files : List Path) :
    checkFiles k d r files = files.map fun f => reportBy .reader k f (d.readText f) := by
  induction files generalizing r with
  | nil => rfl
  | cons f files ih =>
    rw [List.map_cons, checkFiles]
    cases text : d.readText f with
    | error e =>
      rw [checkFile_of_unreadable k r text]
      exact congrArg (FileReport.unreadable f e :: ·) (ih faithful)
    | ok source =>
      rw [checkFile_of_text k faithful text]
      exact congrArg (FileReport.read f (checkAlone k f source) :: ·) (ih (faithful.switch _))

/-- A run with the program's own reader is a run with the trees that a fresh reader makes. -/
theorem survey_eq_surveyBy (k : Checker) (d : Disk) (p : Path) : survey k d p = surveyBy .reader k d p := by
  rw [survey, surveyBy]
  exact congrArg (Except.map · (d.discover p)) (funext fun files =>
    congrArg (Survey.mk files) (checkFiles_eq_map k d SourceReader.fresh_faithful files))

theorem analyze_eq_analyzeBy (k : Checker) (d : Disk) (p : Path) : analyze k d p = analyzeBy .reader k d p := by
  rw [analyze, survey_eq_surveyBy, analyzeBy]

section Parse

variable {parse : Parse} {k : Checker} {d : Disk} {p : Path}

theorem outcomesBy_ok (source : String) (file : Path) : outcomesBy parse k file (.ok source) =
    [checkTree k file source (parse (Language.ofPath file) source)] := rfl

theorem outcomesBy_error (e : FileError) (file : Path) : outcomesBy parse k file (.error e) = [] := rfl

theorem filterMap_reportBy (parse : Parse) (k : Checker) (d : Disk) (files : List Path) :
    (files.map fun f => reportBy parse k f (d.readText f)).filterMap FileReport.outcome? =
      files.flatMap fun f => outcomesBy parse k f (d.readText f) := by
  rw [List.filterMap_map, List.filterMap_eq_flatMap_toList]
  rfl

theorem analyzeBy_of_undiscovered {e : AccessError} (found : d.discover p = .error e) :
    analyzeBy parse k d p = .error e := by
  rw [analyzeBy, surveyBy, found]
  rfl

theorem surveyBy_of_discovered {files : List Path} (found : d.discover p = .ok files) :
    surveyBy parse k d p = .ok ⟨files, files.map fun f => reportBy parse k f (d.readText f)⟩ := by
  rw [surveyBy, found, Except.map]

theorem analyzeBy_eq_gather {files : List Path} (found : d.discover p = .ok files) :
    analyzeBy parse k d p =
      .ok (gather files.length (files.flatMap fun f => outcomesBy parse k f (d.readText f))) := by
  rw [analyzeBy, surveyBy_of_discovered found, Except.map, Survey.result, filterMap_reportBy]

end Parse

structure Outcome.Concerns (o : Outcome) (file : Path) : Prop where
  findings : ∀ g ∈ o.findings, g.file = file
  failures : ∀ g ∈ o.failures, g.file = file

theorem Checker.file_of_finding? {k : Checker} {file : Path} {ignored : List Nat} {call : Call}
    {g : Finding} (found : k.finding? file ignored call = some g) : g.file = file := by
  obtain ⟨d, -, -, rfl⟩ := Checker.finding?_eq_some_iff.mp found
  rfl

theorem checkTree_of_fault (k : Checker) (file : Path) (source : String) {root : Node} {p : Position}
    (fault : root.firstFault? = some p) :
    checkTree k file source root = .unparsed ⟨file, p.line, p.column⟩ := by
  rw [checkTree, fault]

def callsOf (source : String) (root : Node) : List Call := root.preorder.filterMap (lowerCall? source.toUTF8)

theorem checkTree_of_parsed (k : Checker) (file : Path) (source : String) {root : Node}
    (parsed : root.firstFault? = none) :
    checkTree k file source root =
      .checked ((callsOf source root).filterMap (k.finding? file (ignoredLines source)))
        (callsOf source root).length
        ((callsOf source root).filterMap (k.passedOver? (ignoredLines source))) := by
  simp only [checkTree, parsed, Visitor.visitTree_eq_after, Visitor.after, Visitor.start, List.nil_append,
    Nat.zero_add, callsOf]

theorem finding?_of_mem_checkTree {k : Checker} {file : Path} {source : String} {root : Node} {g : Finding}
    (member : g ∈ (checkTree k file source root).findings) :
    ∃ call, k.finding? file (ignoredLines source) call = some g := by
  cases fault : root.firstFault? with
  | some p =>
    rw [checkTree_of_fault k file source fault] at member
    cases member
  | none =>
    rw [checkTree_of_parsed k file source fault, Outcome.findings] at member
    obtain ⟨call, -, found⟩ := List.mem_filterMap.mp member
    exact ⟨call, found⟩

theorem checkTree_concerns (k : Checker) (file : Path) (source : String) (root : Node) :
    (checkTree k file source root).Concerns file := by
  constructor
  · intro g member
    obtain ⟨call, found⟩ := finding?_of_mem_checkTree member
    exact Checker.file_of_finding? found
  · intro g member
    unfold checkTree at member
    split at member
    · rw [Outcome.failures, List.mem_singleton] at member
      rw [member]
    · cases member

theorem checkAlone_concerns (k : Checker) (file : Path) (source : String) :
    (checkAlone k file source).Concerns file := checkTree_concerns k file source _

theorem outcomesBy_concerns {parse : Parse} {k : Checker} {file : Path} {text : Except FileError String}
    {o : Outcome} (member : o ∈ outcomesBy parse k file text) : o.Concerns file := by
  cases text with
  | error e => cases member
  | ok source =>
    rw [outcomesBy_ok, List.mem_singleton] at member
    rw [member]
    exact checkTree_concerns k file source _

theorem file_of_mem_outcomesBy {parse : Parse} {k : Checker} {file : Path} {text : Except FileError String}
    {g : Finding} (member : g ∈ (outcomesBy parse k file text).flatMap Outcome.findings) : g.file = file := by
  obtain ⟨o, inside, found⟩ := List.mem_flatMap.mp member
  exact (outcomesBy_concerns inside).findings g found

theorem finding?_of_mem_outcomesBy {parse : Parse} {k : Checker} {file : Path}
    {text : Except FileError String} {o : Outcome} {g : Finding} (inside : o ∈ outcomesBy parse k file text)
    (member : g ∈ o.findings) : ∃ ignored call, k.finding? file ignored call = some g := by
  cases text with
  | error e => cases inside
  | ok source =>
    rw [outcomesBy_ok, List.mem_singleton] at inside
    rw [inside] at member
    exact ⟨_, finding?_of_mem_checkTree member⟩

end Check

end HookLint
