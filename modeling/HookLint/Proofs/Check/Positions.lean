import HookLint.Proofs.Check.DocumentOrder
import HookLint.Proofs.Check.Fates

/-! No two calls of a tree are reported at the same place, if callees stand in front of arguments. So the
findings of a run are in strict order and there is one way to sort them. How a text becomes a tree does not
matter, if the nodes of the tree stand in the text as they should. -/
namespace HookLint.Check

open HookLint.Files HookLint.Hook HookLint.Text HookLint.Tree

/-- The trees without syntax errors of the texts on a disk all have a property. -/
def Parse.Yields (parse : Parse) (d : Disk) (P : Node → Prop) : Prop :=
  ∀ file source, d.readText file = .ok source →
    (parse (Language.ofPath file) source).firstFault? = none → P (parse (Language.ofPath file) source)

theorem collect_distinct {root : Node} (placed : Placed root) (order : CalleesFirst root) (k : Checker)
    (file : Path) (ignored : List Nat) (bytes : ByteArray) :
    (k.collect file ignored bytes root).Pairwise fun g h => spot g ≠ spot h := by
  rw [Checker.pairwise_collect_iff]
  intro a b m n d e before here there first second
  exact placed.place_ne order before.ne here there first.flagged second.flagged

theorem outcomesBy_distinct {parse : Parse} {d : Disk} (places : parse.Yields d Placed)
    (orders : parse.Yields d CalleesFirst) (k : Checker) (file : Path) :
    ((outcomesBy parse k file (d.readText file)).flatMap Outcome.findings).Pairwise
      fun g h => spot g ≠ spot h := by
  cases text : d.readText file with
  | error e => exact .nil
  | ok source =>
    rw [outcomesBy_ok, List.flatMap_singleton]
    cases parsed : (parse (Language.ofPath file) source).firstFault? with
    | some fault =>
      rw [checkTree_of_fault k file source parsed]
      exact .nil
    | none =>
      rw [findings_checkTree k file source parsed]
      exact collect_distinct (places file source text parsed) (orders file source text parsed) k _ _ _

theorem place_eq_iff {g h : Finding} : place g = place h ↔ g.file.key = h.file.key ∧ spot g = spot h := by
  rw [place, place, spot, spot, toLex_inj, Prod.mk.injEq]

theorem files_distinct {parse : Parse} {d : Disk} (places : parse.Yields d Placed)
    (orders : parse.Yields d CalleesFirst) (k : Checker) {files : List Path}
    (increasing : files.Pairwise fun p q => p.key < q.key) :
    ((files.flatMap fun f => outcomesBy parse k f (d.readText f)).flatMap Outcome.findings).Pairwise
      fun g h => place g ≠ place h := by
  rw [List.flatMap_assoc, List.pairwise_flatMap]
  constructor
  · intro f _
    exact (outcomesBy_distinct places orders k f).imp fun other same => other (place_eq_iff.mp same).2
  · refine increasing.imp ?_
    intro p q before g hg h hh same
    have key := (place_eq_iff.mp same).1
    rw [file_of_mem_outcomesBy hg, file_of_mem_outcomesBy hh] at key
    exact before.ne key

/-- A sort of findings at different places puts them in strict order. -/
theorem gather_increasing {os : List Outcome} (totalFiles : Nat)
    (distinct : (os.flatMap Outcome.findings).Pairwise fun g h => place g ≠ place h) :
    (gather totalFiles os).findings.Pairwise fun g h => place g < place h := by
  have kept : (gather totalFiles os).findings.Pairwise fun g h => place g ≠ place h :=
    ((List.mergeSort_perm _ findingNotAfter).pairwise_iff fun other => other.symm).mpr distinct
  exact (gather_sorted totalFiles os).imp₂ (fun _ _ before other => lt_of_le_of_ne before other) kept

/-- Things in strict order have no other order. -/
theorem eq_of_perm_of_increasing {gs hs : List Finding} (same : gs.Perm hs)
    (sorted : gs.Pairwise fun g h => place g ≤ place h)
    (increasing : hs.Pairwise fun g h => place g < place h) : gs = hs := by
  refine same.eq_of_pairwise ?_ sorted (increasing.imp le_of_lt)
  intro g h hg hh before after
  have : Std.Symm fun g h : Finding => place g ≠ place h := ⟨fun _ _ other => other.symm⟩
  by_contra other
  exact (increasing.imp ne_of_lt).forall (same.mem_iff.mp hg) hh other (le_antisymm before after)

/-- Two calls of a tree are never reported at the same place, if the callees stand in front of the arguments.
So the findings of a run are in strict order, by file, line and column, and no other sort of them would give
another order. -/
theorem reports_apart :
    (∀ bytes hooks root, Placed root → CalleesFirst root → ∀ a b m n d e, a ≠ b → root.at? a = some m →
        root.at? b = some n → flagged? bytes hooks m = some d → flagged? bytes hooks n = some e →
        d.span.place ≠ e.span.place) ∧
      (∀ k d p, analyze k d p = analyzeBy .reader k d p) ∧
      ∀ (parse : Parse) (d : Disk), parse.Yields d Placed → parse.Yields d CalleesFirst → d.WellFormed →
        ∀ k p r, analyzeBy parse k d p = .ok r →
          r.findings.Pairwise (fun g h => place g < place h) ∧
          ∀ gs, gs.Perm r.findings → gs.Pairwise (fun g h => place g ≤ place h) → gs = r.findings := by
  refine ⟨?_, analyze_eq_analyzeBy, ?_⟩
  · intro bytes hooks root placed order a b m n d e other here there first second
    exact placed.place_ne order other here there first second
  · intro parse d places orders wf k p r ran
    obtain ⟨files, found, rfl⟩ := analyzeBy_eq_ok_iff.mp ran
    have increasing := gather_increasing files.length
      (files_distinct places orders k (Disk.discover_increasing wf found))
    exact ⟨increasing, fun gs same sorted => eq_of_perm_of_increasing same sorted increasing⟩

/-- The file of one statement, with a call in the body of the function of another one. -/
def nestedFile : Disk := Disk.empty.mount ⟨"src/a.js"⟩ (.file nestedText.toUTF8)

/-- The reading of one text. Other texts are as good as empty. -/
def nestedParse : Parse := fun _ source =>
  if source = nestedText then nestedTree else branch "program" none 0 0 []

theorem nestedParse_yields {P : Node → Prop} (nested : P nestedTree) (other : P (branch "program" none 0 0 []))
    (d : Disk) : nestedParse.Yields d P := by
  intro file source _ _
  rw [nestedParse]
  split
  · exact nested
  · exact other

theorem nestedFile_discover : nestedFile.discover ⟨"src"⟩ = .ok [⟨"src/a.js"⟩] := by
  have listed : nestedFile.entry ⟨"src"⟩ = .ok (.directory [("a.js", .file nestedText.toUTF8)]) := by
    rfl
  exact Disk.discover_of_listed listed (by decide)

theorem nestedFile_readText : nestedFile.readText ⟨"src/a.js"⟩ = .ok nestedText := by
  have found : nestedFile.entry ⟨"src/a.js"⟩ = .ok (.file nestedText.toUTF8) := by rfl
  rw [Disk.readText, found]
  rfl

theorem nestedFile_analyze : analyzeBy nestedParse usualChecker nestedFile ⟨"src"⟩ =
    .ok (gather 1 [checkTree usualChecker ⟨"src/a.js"⟩ nestedText nestedTree]) := by
  rw [analyzeBy_eq_gather nestedFile_discover, List.flatMap_singleton, nestedFile_readText, outcomesBy_ok,
    nestedParse, if_pos rfl, List.length_singleton]

theorem reports_apart_nested :
    Placed nestedTree ∧ CalleesFirst nestedTree ∧
      (∃ m n d e, nestedTree.at? [0, 0] = some m ∧ nestedTree.at? [0, 0, 1, 1, 2] = some n ∧
        flagged? nestedText.toUTF8 usualChecker.hooks m = some d ∧
        flagged? nestedText.toUTF8 usualChecker.hooks n = some e ∧ d.span.place ≠ e.span.place) ∧
      ∃ r, analyzeBy nestedParse usualChecker nestedFile ⟨"src"⟩ = .ok r ∧
        r.findings.Pairwise (fun g h => place g < place h) ∧
        r.findings.map spot = [toLex (1, 9), toLex (1, 25)] := by
  have placed : Placed nestedTree := by decide +kernel
  have order : CalleesFirst nestedTree := by decide +kernel
  refine ⟨placed, order, ?_, _, nestedFile_analyze, ?_⟩
  · have first : (nestedTree.at? [0, 0]).bind (flagged? nestedText.toUTF8 usualChecker.hooks) =
        some ⟨"useMemo", .arrow, ⟨8, 32, 1, 9⟩⟩ := by decide +kernel
    have second : (nestedTree.at? [0, 0, 1, 1, 2]).bind
        (flagged? nestedText.toUTF8 usualChecker.hooks) =
        some ⟨"useEffect", .arrow, ⟨24, 31, 1, 25⟩⟩ := by decide +kernel
    obtain ⟨m, here, flagged⟩ := Option.bind_eq_some_iff.mp first
    obtain ⟨n, there, flagged'⟩ := Option.bind_eq_some_iff.mp second
    exact ⟨m, n, _, _, here, there, flagged, flagged', reports_apart.1 _ _ _ placed order _ _ _ _ _ _
      (by decide) here there flagged flagged'⟩
  · obtain ⟨increasing, unique⟩ := reports_apart.2.2 nestedParse nestedFile
      (nestedParse_yields placed (by decide) _) (nestedParse_yields order (by decide) _)
      (Disk.wellFormed_empty.mount (.file _)) usualChecker ⟨"src"⟩ _ nestedFile_analyze
    -- the findings as they were collected are in order, so they are the sorted ones
    have collected := findings_checkTree usualChecker ⟨"src/a.js"⟩ nestedText
      (show nestedTree.firstFault? = none from rfl)
    refine ⟨increasing, ?_⟩
    rw [← unique _ (List.mergeSort_perm _ _).symm ?_, List.flatMap_singleton, collected]
    · decide +kernel
    · rw [List.flatMap_singleton, collected]
      decide +kernel

def overlaidText : String := "useMemo(() => 1useMemo)"

/-- A call in a function that begins with it, and the list of its arguments in front of its callee. -/
def overlaidTree : Node :=
  let inner := branch "call_expression" none 8 22
    [branch "arguments" (some "arguments") 8 15 [branch "arrow_function" none 8 15 []],
     branch "identifier" (some "function") 15 22 []]
  callTree none 0 7 7 23 [] (branch "arrow_function" none 8 22 [inner])

/-- Where a callee stands behind its arguments, a call may begin with the function that it is reported at, and
that may be where the call around it is reported. -/
theorem reports_overlaid :
    Placed overlaidTree ∧ overlaidTree.firstFault? = none ∧
      ∃ a b m n d e, a ≠ b ∧ overlaidTree.at? a = some m ∧ overlaidTree.at? b = some n ∧
        flagged? overlaidText.toUTF8 usualChecker.hooks m = some d ∧
        flagged? overlaidText.toUTF8 usualChecker.hooks n = some e ∧ d.span.place = e.span.place := by
  have outer : (overlaidTree.at? []).bind (flagged? overlaidText.toUTF8 usualChecker.hooks) =
      some ⟨"useMemo", .arrow, ⟨8, 22, 1, 9⟩⟩ := by decide +kernel
  have inner : (overlaidTree.at? [1, 1, 0]).bind (flagged? overlaidText.toUTF8 usualChecker.hooks) =
      some ⟨"useMemo", .arrow, ⟨8, 15, 1, 9⟩⟩ := by decide +kernel
  obtain ⟨m, here, flagged⟩ := Option.bind_eq_some_iff.mp outer
  obtain ⟨n, there, flagged'⟩ := Option.bind_eq_some_iff.mp inner
  exact ⟨by decide +kernel, rfl, [], [1, 1, 0], m, n, _, _, by decide, here, there, flagged, flagged', rfl⟩

end HookLint.Check
