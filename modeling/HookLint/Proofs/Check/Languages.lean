import HookLint.Proofs.Check.Merging
import HookLint.Proofs.Language.OfPath

/-! The languages that the files of a run are read in. Below a directory each file is read in the language that
its name tells. Only a file that is asked for by itself may have any name; without a language of its own it is
read as JavaScript. -/
namespace HookLint.Check

open HookLint.Files

/-- What is reported of a file that is read in a language, when nothing was read before it. -/
def reportIn (l : Language) (k : Checker) (d : Disk) (file : Path) : FileReport :=
  reportBy (fun _ => Parse.reader l) k file (d.readText file)

theorem reportBy_reader (k : Checker) (d : Disk) (file : Path) :
    reportBy .reader k file (d.readText file) = reportIn (Language.ofPath file) k d file := by
  cases text : d.readText file with
  | error e => rw [reportIn, text, reportBy, reportBy]
  | ok source => rw [reportIn, text, reportBy, reportBy]

theorem survey_eq (k : Checker) {d : Disk} {p : Path} {files : List Path} (found : d.discover p = .ok files) :
    survey k d p = .ok ⟨files, files.map fun f => reportIn (Language.ofPath f) k d f⟩ := by
  rw [survey_eq_surveyBy, surveyBy_of_discovered found]
  simp only [reportBy_reader]

/-- The names of the files below a directory tell the languages that they are read in. -/
theorem survey_directory (k : Checker) {d : Disk} {root : Path} {es : Entries}
    (listed : d.entry root = .ok (.directory es)) :
    ∃ (files : List Path) (language : Path → Language), d.discover root = .ok files ∧
      (∀ f ∈ files, ∃ name, f.LastName name ∧ (language f).Names name) ∧
      survey k d root = .ok ⟨files, files.map fun f => reportIn (language f) k d f⟩ := by
  have found := Disk.discover_directory listed
  refine ⟨_, Language.ofPath, found, ?_, survey_eq k found⟩
  intro f member
  obtain ⟨l, known⟩ := Option.isSome_iff_exists.mp (known_of_mem_sourcesIn (mem_sortPaths.mp member))
  have own : Language.ofPath f = l := by rw [Language.ofPath, known, Option.getD_some]
  rw [own]
  exact Language.exists_names_of_ofPath? known

theorem survey_file (k : Checker) {d : Disk} {root : Path} {content : ByteArray}
    (found : d.entry root = .ok (.file content)) :
    d.discover root = .ok [root] ∧
      survey k d root = .ok ⟨[root], [reportIn ((Language.ofPath? root).getD .javaScript) k d root]⟩ :=
  ⟨Disk.discover_file found, survey_eq k (Disk.discover_file found)⟩

/-- The last component of a path decides on the language of the path, and the files below a directory are read
in the languages of their paths. -/
theorem language_by_last_name :
    (∀ (p : Path) (tail : String), Trailing tail.toList →
      Language.ofPath? ⟨p.text ++ tail⟩ = Language.ofPath? p) ∧
    (∀ (directory p : Path) (name : String), p.LastName name →
      Language.ofPath? (directory.join p.text) = Language.ofPath? p) ∧
    (∀ p : Path, ((¬ ∃ name, p.LastName name) ↔ p.Blank ∨ p.EndsIn ['.', '.']) ∧
      ((¬ ∃ name, p.LastName name) → Language.ofPath? p = none)) ∧
    (∀ (p : Path) (name : String) (l : Language), p.LastName name →
      (Language.ofPath? p = some l ↔ l.Names name)) ∧
    ((∀ name ∈ [".ts", ".d.ts", "x.d.mts"], Language.ofPath? ⟨name⟩ = none) ∧
      Language.ofPath? ⟨"d.ts"⟩ = some .typeScript ∧ Language.ofPath? ⟨"x.d.tsx"⟩ = some .tsx) ∧
    (∀ (k : Checker) (d : Disk) (root : Path) (es : Entries), d.entry root = .ok (.directory es) →
      ∃ (files : List Path) (language : Path → Language), d.discover root = .ok files ∧
        (∀ f ∈ files, ∃ name, f.LastName name ∧ (language f).Names name) ∧
        survey k d root = .ok ⟨files, files.map fun f => reportIn (language f) k d f⟩) ∧
    ∀ (k : Checker) (d : Disk) (root : Path) (content : ByteArray), d.entry root = .ok (.file content) →
      d.discover root = .ok [root] ∧
        survey k d root = .ok ⟨[root], [reportIn ((Language.ofPath? root).getD .javaScript) k d root]⟩ := by
  refine ⟨fun p tail => Language.ofPath?_append p, fun directory p name => Language.ofPath?_join directory,
    fun p => ⟨Path.nameless_iff, Language.ofPath?_of_nameless⟩, fun p name l => Language.ofPath?_of_last, by decide,
    fun k d root es => survey_directory k, fun k d root content => survey_file k⟩

/-- A file without a language, asked for by itself. -/
def notesFile : Disk := Disk.empty.mount ⟨"notes.txt"⟩ (.file "useMemo(() => 1);".toUTF8)

theorem notesFile_entry : notesFile.entry ⟨"notes.txt"⟩ = .ok (.file "useMemo(() => 1);".toUTF8) := by rfl

theorem lastName_source : Path.LastName ⟨"src/b.ts"⟩ "b.ts" :=
  ⟨by decide, "src/".toList, [], rfl, Or.inr rfl, .nil⟩

theorem language_by_last_name_sources :
    Language.ofPath? ⟨"src/b.ts" ++ "/./"⟩ = Language.ofPath? ⟨"src/b.ts"⟩ ∧
      Language.ofPath? (Path.join ⟨"node_modules/.."⟩ "src/b.ts") = Language.ofPath? ⟨"src/b.ts"⟩ ∧
      Language.ofPath? ⟨"src/b.ts"⟩ = some .typeScript ∧ Language.ofPath? ⟨"src/.././"⟩ = none ∧
      (∃ (files : List Path) (language : Path → Language), twoFiles.discover ⟨"src"⟩ = .ok files ∧
        (∀ f ∈ files, ∃ name, f.LastName name ∧ (language f).Names name) ∧
        survey memoChecker twoFiles ⟨"src"⟩ =
          .ok ⟨files, files.map fun f => reportIn (language f) memoChecker twoFiles f⟩) ∧
      survey memoChecker notesFile ⟨"notes.txt"⟩ = .ok ⟨[⟨"notes.txt"⟩],
        [reportIn .javaScript memoChecker notesFile ⟨"notes.txt"⟩]⟩ := by
  obtain ⟨longer, below, nameless, named, -, directory, file⟩ := language_by_last_name
  have trailing : Trailing "/./".toList := .dot (.slash .nil)
  have names : Language.Names .typeScript "b.ts" :=
    ⟨⟨"b", "ts", by decide, by decide, by decide⟩, fun _ => by decide⟩
  have up : Path.EndsIn ⟨"src/.././"⟩ ['.', '.'] := ⟨"src/".toList, "/./".toList, rfl, Or.inr rfl, trailing⟩
  have listed : ∃ es, twoFiles.entry ⟨"src"⟩ = .ok (.directory es) := ⟨_, rfl⟩
  obtain ⟨es, listed⟩ := listed
  refine ⟨longer _ _ trailing, below _ _ _ lastName_source, (named _ _ _ lastName_source).mpr names, ?_,
    directory _ _ _ _ listed, (file _ _ _ _ notesFile_entry).2⟩
  exact (nameless _).2 ((nameless _).1.mpr (Or.inr up))

theorem notes_read_as_javaScript :
    notesFile.discover ⟨"notes.txt"⟩ = .ok [⟨"notes.txt"⟩] ∧ Language.ofPath? ⟨"notes.txt"⟩ = none ∧
      survey memoChecker notesFile ⟨"notes.txt"⟩ = .ok ⟨[⟨"notes.txt"⟩],
        [.read ⟨"notes.txt"⟩ (checkTree memoChecker ⟨"notes.txt"⟩ "useMemo(() => 1);"
          (Reader.readTree Language.javaScript.dialect "useMemo(() => 1);".toList))]⟩ := by
  have text : notesFile.readText ⟨"notes.txt"⟩ = .ok "useMemo(() => 1);" := by
    rw [Disk.readText, notesFile_entry]
    rfl
  have unknown : Language.ofPath? ⟨"notes.txt"⟩ = none := by decide
  obtain ⟨discovered, read⟩ := survey_file memoChecker notesFile_entry
  refine ⟨discovered, unknown, ?_⟩
  rw [read, unknown, Option.getD_none, reportIn, text, reportBy, Parse.reader]

end HookLint.Check
