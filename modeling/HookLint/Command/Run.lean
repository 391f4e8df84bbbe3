import HookLint.Command.Options
import HookLint.Config.OfJson
import HookLint.Report.Journal
import HookLint.Report.Json
import HookLint.Report.Text

/-!
A run of the command: its exit status, what it prints, what it complains about and what it notes.

The configuration comes from the file that is given, else from the directory that is looked at; the
additional hooks of the command line follow those of the file, and its severity replaces that of the
file. The first fault in this order ends the run before any source is read. A report in JSON may fail after
all sources were read, since it cannot name every file.
-/
namespace HookLint.Command

open HookLint.Check HookLint.Files HookLint.Report

/-- A fault that ends a run, and perhaps what lies behind it. -/
structure Failure where
  message : String
  cause : Option String
deriving DecidableEq, Repr

def Failure.ofConfig (f : ConfigFault) : Failure := ⟨f.message, f.cause?⟩

def Failure.ofHooks (f : ConfigFault) : Failure := ⟨"invalid --hook value", some f.message⟩

def Failure.ofAccess (e : AccessError) : Failure := ⟨e.summary, some e.reason.message⟩

def indented (text : String) : List String :=
  (Text.lines text.toList).map fun l => "    " ++ String.ofList l

def Failure.lines (f : Failure) : List String :=
  (Text.lines ("Error: " ++ f.message).toList).map String.ofList ++
    match f.cause with
    | some cause => ["", "Caused by:"] ++ indented cause
    | none => []

/-- Where the configuration file is looked for: in the target, or beside it when it is a file. -/
def configDirectory (d : Disk) (target : Path) : Path :=
  if d.isFile target then target.parent else target

def wantedPaths (o : Options) : List Path :=
  match o.config with
  | some file => [o.target, ⟨file⟩]
  | none => [o.target, o.target.join Config.fileName, o.target.parent.join Config.fileName]

def baseConfig (d : Disk) (o : Options) : Except ConfigFault Config :=
  match o.config with
  | some file => Config.ofFile d ⟨file⟩
  | none => Config.discover d (configDirectory d o.target)

def withSeverity (c : Config) : Option String → Except ConfigFault Config
  | none => .ok c
  | some text => (Config.severityOf text).map fun s => { c with severity := s }

def effectiveConfig (d : Disk) (o : Options) : Except Failure Config :=
  match baseConfig d o with
  | .error f => .error (.ofConfig f)
  | .ok c =>
    match c.extendHooks o.hooks with
    | (_, some f) => .error (.ofHooks f)
    | (c, none) => (withSeverity c o.severity).mapError .ofConfig

def configNotes (d : Disk) (o : Options) : List Note :=
  match o.config with
  | some _ => []
  | none => ((Config.fileIn? d (configDirectory d o.target)).map loadingNote).toList

structure Answer where
  status : Nat
  output : String
  notes : List Note
  complaints : List String
deriving DecidableEq, Repr

def failed (notes : List Note) (f : Failure) : Answer := ⟨1, "", notes, f.lines⟩

def rendered (shaded : Bool) (o : Options) (r : Result) : String :=
  if o.json then ended [jsonText r] else text shaded r

/-- A path that is no text cannot be written in JSON. People are shown it with marks. -/
def Failure.illegible : Failure := ⟨"path contains invalid UTF-8 characters", none⟩

def printed (d : Disk) (shaded : Bool) (o : Options) (r : Result) : Except Failure String :=
  if o.json && !r.paths.all d.isText then .error .illegible else .ok (rendered shaded o r)

/-- The answer to options, with a way to survey the target. All notes are there, whatever the threshold. -/
def answer (d : Disk) (shaded : Bool) (o : Options)
    (surveyWith : Checker → Disk → Path → Except AccessError Survey) : Answer :=
  let notes := configNotes d o
  match effectiveConfig d o with
  | .error f => failed notes f
  | .ok c =>
    let notes := notes ++ [trackedNote c.hooks]
    match surveyWith (.ofConfig c) d o.target with
    | .error e => failed notes (.ofAccess e)
    | .ok s =>
      let notes := notes ++ surveyNotes o.target s
      match printed d shaded o s.result with
      | .error f => failed notes f
      | .ok output => ⟨if s.result.isClean then 0 else 1, output, notes, []⟩

/-- Checks what the options say. -/
def check (d : Disk) (shaded : Bool) (o : Options) : Answer := answer d shaded o survey

def checkBy (parse : Parse) (d : Disk) (shaded : Bool) (o : Options) : Answer :=
  answer d shaded o (surveyBy parse)

/-- Warnings are kept, or more when the run is verbose, unless another threshold is set. -/
def threshold (setting : Option String) (verbose : Bool) : Threshold :=
  match setting with
  | none | some "" => if verbose then some .debug else some .warn
  | some text => (Threshold.parse? text).getD none

def versionLine : String := "named-hooks-rs 0.1.0"

def helpLines : List String := [
  Hook.namedFunctions.description,
  "",
  usage [],
  "",
  "Arguments:",
  "  [PATH]  File or directory to analyze [default: .]",
  "",
  "Options:",
  "  -c, --config <CONFIG>      JSON config file. Defaults to `.named-hooks.json` in the analyzed directory",
  "      --hook <NAME>          Additional hook name to check (repeatable)",
  "      --severity <SEVERITY>  Severity of findings: `error` or `warn`. Overrides the config file",
  "      --json                 Output raw JSON",
  "  -v, --verbose              Log progress to stderr",
  "  -h, --help                 Print help",
  "  -V, --version              Print version"]

/-- Replies to the words of a command line, with a way to check what options say. -/
def reply (checkWith : Options → Answer) (setting : Option String) (words : List String) : Answer :=
  match Request.ofWords words with
  | .error e => ⟨2, "", [], e.lines⟩
  | .ok .help => ⟨0, ended helpLines, [], []⟩
  | .ok .version => ⟨0, ended [versionLine], [], []⟩
  | .ok (.run o) =>
    let a := checkWith o
    { a with notes := a.notes.filter fun n => (threshold setting o.verbose).keeps n.level }

def run (d : Disk) (shaded : Bool) (setting : Option String) (words : List String) : Answer :=
  reply (check d shaded) setting words

/-- A run of the command in which texts become trees in a given way. -/
def runBy (parse : Parse) (d : Disk) (shaded : Bool) (setting : Option String) (words : List String) : Answer :=
  reply (checkBy parse d shaded) setting words

end HookLint.Command
