import HookLint.Proofs.Check.Gathering

/-! Work that is shared out. Each worker keeps one reader for all sources that it is handed, and the
outcomes of all workers come in any order. -/
namespace HookLint.Check

open HookLint.Files

/-- A worker whose reader has read some languages, and the sources that it is handed, in their order. -/
structure Worker where
  history : List Language
  share : List (Path × String)

def Worker.outcomes (k : Checker) (w : Worker) : List Outcome :=
  checkSources k (SourceReader.afterAll w.history) w.share

theorem Worker.outcomes_eq_map (k : Checker) (w : Worker) :
    w.outcomes k = w.share.map fun s => checkAlone k s.1 s.2 :=
  checkSources_eq_map k (SourceReader.afterAll_faithful w.history) w.share

/-- The sources one after another, each with a reader of its own. -/
def onePass (k : Checker) (sources : List (Path × String)) : List Outcome :=
  sources.flatMap fun s => checkSources k .fresh [s]

theorem onePass_eq_map (k : Checker) (sources : List (Path × String)) :
    onePass k sources = sources.map fun s => checkAlone k s.1 s.2 := by
  induction sources with
  | nil => rfl
  | cons s sources ih =>
    rw [onePass, List.flatMap_cons, ← onePass, ih,
      checkSources_eq_map k SourceReader.fresh_faithful]
    rfl

theorem outcomes_perm_onePass (k : Checker) {sources : List (Path × String)} {workers : List Worker}
    (shared : (workers.flatMap Worker.share).Perm sources) :
    (workers.flatMap (Worker.outcomes k)).Perm (onePass k sources) := by
  have each : workers.flatMap (Worker.outcomes k) =
      (workers.flatMap Worker.share).map fun s => checkAlone k s.1 s.2 := by
    rw [List.map_flatMap]
    exact List.flatMap_congr fun w _ => w.outcomes_eq_map k
  rw [each, onePass_eq_map]
  exact shared.map _

theorem onePass_unshared (k : Checker) {sources : List (Path × String)}
    (distinct : (sources.map fun s => s.1.components).Nodup) :
    ∀ o ∈ onePass k sources, ∀ o' ∈ onePass k sources, Unshared o o' := by
  intro o ho o' ho'
  rw [onePass_eq_map] at ho ho'
  obtain ⟨s, hs, rfl⟩ := List.mem_map.mp ho
  obtain ⟨s', hs', rfl⟩ := List.mem_map.mp ho'
  by_cases same : s.1.components = s'.1.components
  · rw [List.inj_on_of_nodup_map distinct hs hs' same]
    exact Or.inl rfl
  · exact Or.inr ⟨s.1, s'.1, fun key => same (Path.key_eq_iff.mp key), checkAlone_concerns k s.1 s.2,
      checkAlone_concerns k s'.1 s'.2⟩

/-- However the sources are shared out, whatever the readers have read before, and in whichever order
the outcomes come, the result is that of one pass with fresh readers. No reader that has been used
reads a source in another way than a fresh one. -/
theorem gather_scheduled (k : Checker) (totalFiles : Nat) {sources : List (Path × String)}
    {workers : List Worker} {outcomes : List Outcome}
    (distinct : (sources.map fun s => s.1.components).Nodup)
    (shared : (workers.flatMap Worker.share).Perm sources)
    (order : outcomes.Perm (workers.flatMap (Worker.outcomes k))) :
    gather totalFiles outcomes = gather totalFiles (onePass k sources) ∧
      ∀ history, (SourceReader.afterAll history).Faithful ∧ ∀ file source,
        (checkSource k (SourceReader.afterAll history) file source).1 =
          (checkSource k .fresh file source).1 := by
  constructor
  · have same : (onePass k sources).Perm outcomes :=
      (order.trans (outcomes_perm_onePass k shared)).symm
    exact (gather_perm totalFiles same (onePass_unshared k distinct)).symm
  · intro history
    have faithful := SourceReader.afterAll_faithful history
    refine ⟨faithful, fun file source => ?_⟩
    rw [checkSource_eq k faithful, checkSource_eq k SourceReader.fresh_faithful]

def scriptSource : Path × String := (⟨"a.js"⟩, "useMemo(() => 1);")

def typedSource : Path × String := (⟨"b.ts"⟩, "useMemo(() => 2 as number);")

/-- Two workers, one of which has read other languages, with the outcomes in reverse. -/
theorem gather_reversed :
    let k : Checker := ⟨["useMemo"], .error⟩
    let workers : List Worker := [⟨[.tsx, .javaScript], [typedSource]⟩, ⟨[], [scriptSource]⟩]
    gather 2 (workers.flatMap (Worker.outcomes k)).reverse =
      gather 2 (onePass k [scriptSource, typedSource]) :=
  (gather_scheduled _ 2 (by decide) (by decide) (List.reverse_perm _)).1

end HookLint.Check
