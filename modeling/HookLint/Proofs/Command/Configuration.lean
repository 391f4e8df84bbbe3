import HookLint.Command.Run
import HookLint.Proofs.Config.Runs

/-! The configuration of a run, from a file, the hooks of the command line and its severity. A stage that
fails ends the run with its own fault, whatever the stages behind it would say. -/
namespace HookLint

open HookLint.Files

/-- At the path is a regular file, or a link that leads to one. -/
def Files.Disk.HasFile (d : Disk) (p : Path) : Prop := ∃ content, d.entry p = .ok (.file content)

theorem Files.Disk.isFile_iff {d : Disk} {p : Path} : d.isFile p ↔ d.HasFile p := by
  rw [isFile, HasFile]
  cases d.entry p with
  | error e => simp
  | ok e => cases e <;> simp

namespace Config

end Config

namespace Command

variable {d : Disk} {o : Options}

/-- The file that the configuration is taken from, if there is one: the one that is given, else that of the
target, which is looked for beside a target that is a file. -/
inductive ConfigSource (d : Disk) (o : Options) : Option Path → Prop
  | given {file : String} (given : o.config = some file) : ConfigSource d o (some ⟨file⟩)
  | inside (missing : o.config = none) (searched : ¬ d.HasFile o.target)
      (there : d.HasFile (o.target.join Config.fileName)) :
      ConfigSource d o (some (o.target.join Config.fileName))
  | beside (missing : o.config = none) (file : d.HasFile o.target)
      (there : d.HasFile (o.target.parent.join Config.fileName)) :
      ConfigSource d o (some (o.target.parent.join Config.fileName))
  | notInside (missing : o.config = none) (searched : ¬ d.HasFile o.target)
      (absent : ¬ d.HasFile (o.target.join Config.fileName)) : ConfigSource d o none
  | notBeside (missing : o.config = none) (file : d.HasFile o.target)
      (absent : ¬ d.HasFile (o.target.parent.join Config.fileName)) : ConfigSource d o none

def configFrom (d : Disk) : Option Path → Except ConfigFault Config
  | some p => Config.ofFile d p
  | none => .ok {}

/-- What the options make of the configuration that they find, stage by stage. -/
inductive Effective (d : Disk) (o : Options) : Except Failure Config → Prop
  | badFile {p : Path} {f : ConfigFault} (source : ConfigSource d o (some p))
      (bad : Config.ofFile d p = .error f) : Effective d o (.error (.ofConfig f))
  | badHook {p? : Option Path} {c : Config} {good rest : List String} {bad : String}
      (source : ConfigSource d o p?) (base : configFrom d p? = .ok c)
      (hooks : o.hooks = good ++ bad :: rest) (ok : ∀ n ∈ good, IsHookName n) (other : ¬ IsHookName bad) :
      Effective d o (.error (.ofHooks (nameFault (c.additionalHooks.length + good.length) bad)))
  | badSeverity {p? : Option Path} {c : Config} {text : String} (source : ConfigSource d o p?)
      (base : configFrom d p? = .ok c) (ok : ∀ n ∈ o.hooks, IsHookName n) (given : o.severity = some text)
      (unknown : Severity.parse? text = none) : Effective d o (.error (.ofConfig (.unknownSeverity text)))
  | kept {p? : Option Path} {c : Config} (source : ConfigSource d o p?) (base : configFrom d p? = .ok c)
      (ok : ∀ n ∈ o.hooks, IsHookName n) (missing : o.severity = none) :
      Effective d o (.ok ⟨c.additionalHooks ++ o.hooks, c.severity⟩)
  | replaced {p? : Option Path} {c : Config} {text : String} {s : Severity} (source : ConfigSource d o p?)
      (base : configFrom d p? = .ok c) (ok : ∀ n ∈ o.hooks, IsHookName n) (given : o.severity = some text)
      (known : Severity.parse? text = some s) : Effective d o (.ok ⟨c.additionalHooks ++ o.hooks, s⟩)

theorem configDirectory_of_file {p : Path} (file : d.HasFile p) : configDirectory d p = p.parent :=
  if_pos (Disk.isFile_iff.mpr file)

theorem configDirectory_of_other {p : Path} (other : ¬ d.HasFile p) : configDirectory d p = p :=
  if_neg (Disk.isFile_iff.not.mpr other)

theorem discover_of_file {directory : Path} (there : d.HasFile (directory.join Config.fileName)) :
    Config.discover d directory = Config.ofFile d (directory.join Config.fileName) := by
  have found : Config.fileIn? d directory = some (directory.join Config.fileName) :=
    if_pos (Disk.isFile_iff.mpr there)
  rw [Config.discover, found]

theorem discover_of_absent {directory : Path} (absent : ¬ d.HasFile (directory.join Config.fileName)) :
    Config.discover d directory = .ok {} := by
  have found : Config.fileIn? d directory = none := if_neg (Disk.isFile_iff.not.mpr absent)
  rw [Config.discover, found]

theorem ConfigSource.baseConfig_eq {p? : Option Path} (source : ConfigSource d o p?) :
    baseConfig d o = configFrom d p? := by
  unfold baseConfig
  cases source with
  | given given => rw [given, configFrom]
  | inside missing searched there =>
    rw [missing, configDirectory_of_other searched, discover_of_file there, configFrom]
  | beside missing file there =>
    rw [missing, configDirectory_of_file file, discover_of_file there, configFrom]
  | notInside missing searched absent =>
    rw [missing, configDirectory_of_other searched, discover_of_absent absent, configFrom]
  | notBeside missing file absent =>
    rw [missing, configDirectory_of_file file, discover_of_absent absent, configFrom]

theorem effectiveConfig_of_names {p? : Option Path} {c : Config} (source : ConfigSource d o p?)
    (base : configFrom d p? = .ok c) (ok : ∀ n ∈ o.hooks, IsHookName n) :
    effectiveConfig d o = (withSeverity (c.addHooks o.hooks) o.severity).mapError .ofConfig := by
  rw [effectiveConfig, source.baseConfig_eq, base]
  simp only [Config.extendHooks_of_names c ok]

theorem Effective.sound {r : Except Failure Config} (effective : Effective d o r) :
    effectiveConfig d o = r := by
  cases effective with
  | badFile source bad => rw [effectiveConfig, source.baseConfig_eq, configFrom, bad]
  | badHook source base hooks ok other =>
    rw [effectiveConfig, source.baseConfig_eq, base]
    simp only [hooks, Config.extendHooks_of_bad _ ok other, Config.addHooks_eq, List.length_append]
  | badSeverity source base ok given unknown =>
    rw [effectiveConfig_of_names source base ok, given, withSeverity, Config.severityOf, unknown]
    rfl
  | kept source base ok missing =>
    rw [effectiveConfig_of_names source base ok, missing, withSeverity, Config.addHooks_eq]
    rfl
  | replaced source base ok given known =>
    rw [effectiveConfig_of_names source base ok, given, withSeverity, Config.severityOf, known,
      Config.addHooks_eq]
    rfl

end Command

end HookLint
