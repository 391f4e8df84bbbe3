import HookLint.Proofs.Check.Alone
import HookLint.Proofs.Hook.Placement
import HookLint.Proofs.Order.Sorting

/-! The order in which a visitor collects. Calls are visited in the order of the text, but a finding stands
at the function of its call, and a call between the start and the function of another one is visited
later. -/
namespace HookLint.Check

open HookLint.Hook HookLint.Text HookLint.Tree

/-- Where a finding stands in its file. -/
def spot (g : Finding) : Nat ×ₗ Nat := toLex (g.line, g.column)

/-- The call gives a finding. -/
structure Checker.Reports (k : Checker) (ignored : List Nat) (bytes : ByteArray) (n : Node)
    (d : Diagnostic) : Prop where
  flagged : flagged? bytes k.hooks n = some d
  line : d.span.line ∉ ignored

def Checker.report? (k : Checker) (file : Files.Path) (ignored : List Nat) (bytes : ByteArray) (n : Node) :
    Option Finding :=
  (lowerCall? bytes n).bind (k.finding? file ignored)

theorem Checker.report?_eq_some_iff {k : Checker} {file : Files.Path} {ignored : List Nat}
    {bytes : ByteArray} {n : Node} {g : Finding} :
    k.report? file ignored bytes n = some g ↔
      ∃ d, k.Reports ignored bytes n d ∧ g = d.finding file k.severity := by
  simp only [report?, Option.bind_eq_some_iff, finding?_eq_some_iff]
  constructor
  · rintro ⟨call, lowered, d, detected, line, rfl⟩
    exact ⟨d, ⟨Option.bind_eq_some_iff.mpr ⟨call, lowered, detected⟩, line⟩, rfl⟩
  · rintro ⟨d, ⟨flagged, line⟩, rfl⟩
    obtain ⟨call, lowered, detected⟩ := Option.bind_eq_some_iff.mp flagged
    exact ⟨call, lowered, d, detected, line, rfl⟩

/-- The findings of a tree, by the addresses of its nodes. -/
def Checker.collect (k : Checker) (file : Files.Path) (ignored : List Nat) (bytes : ByteArray)
    (root : Node) : List Finding :=
  root.addresses.filterMap fun a => (root.at? a).bind (k.report? file ignored bytes)

theorem Visitor.findings_visitTree (k : Checker) (bytes : ByteArray) (v : Visitor) (root : Node) :
    (v.visitTree k bytes root).findings = v.findings ++ k.collect v.file v.ignored bytes root := by
  rw [visitTree_eq_after, after, List.filterMap_filterMap, Checker.collect]
  exact congrArg (v.findings ++ ·) (root.filterMap_preorder_eq (k.report? v.file v.ignored bytes))

theorem findings_checkTree (k : Checker) (file : Files.Path) (source : String) {root : Node}
    (parsed : root.firstFault? = none) :
    (checkTree k file source root).findings =
      k.collect file (ignoredLines source) source.toUTF8 root := by
  rw [checkTree_of_parsed k file source parsed, Outcome.findings, callsOf, List.filterMap_filterMap,
    Checker.collect]
  exact root.filterMap_preorder_eq (k.report? file (ignoredLines source) source.toUTF8)

/-- What holds of the findings of a tree along their order, said of the calls. -/
theorem Checker.pairwise_collect_iff {R : Finding → Finding → Prop} {k : Checker} {file : Files.Path}
    {ignored : List Nat} {bytes : ByteArray} {root : Node} :
    (k.collect file ignored bytes root).Pairwise R ↔
      ∀ a b m n d e, a < b → root.at? a = some m → root.at? b = some n →
        k.Reports ignored bytes m d → k.Reports ignored bytes n e →
        R (d.finding file k.severity) (e.finding file k.severity) := by
  rw [collect, List.pairwise_filterMap,
    Order.pairwise_iff_of_increasing root.addresses_increasing]
  constructor
  · intro along a b m n d e before here there first second
    have listed := (root.mem_addresses_iff a).mpr (Option.isSome_of_eq_some here)
    have listed' := (root.mem_addresses_iff b).mpr (Option.isSome_of_eq_some there)
    refine along a listed b listed' before _ ?_ _ ?_
    · rw [here]
      exact report?_eq_some_iff.mpr ⟨d, first, rfl⟩
    · rw [there]
      exact report?_eq_some_iff.mpr ⟨e, second, rfl⟩
  · intro each a _ b _ before g hg h hh
    obtain ⟨m, here, found⟩ := Option.bind_eq_some_iff.mp hg
    obtain ⟨n, there, found'⟩ := Option.bind_eq_some_iff.mp hh
    obtain ⟨d, first, rfl⟩ := report?_eq_some_iff.mp found
    obtain ⟨e, second, rfl⟩ := report?_eq_some_iff.mp found'
    exact each a b m n d e before here there first second

/-- A reported call has another one inside it that ends in front of its function. -/
def Checker.Overtaken (k : Checker) (ignored : List Nat) (bytes : ByteArray) (root : Node) : Prop :=
  ∃ m ∈ root.preorder, ∃ c ∈ m.children, ∃ n ∈ c.preorder, ∃ d e,
    k.Reports ignored bytes m d ∧ k.Reports ignored bytes n e ∧ n.span.endByte ≤ d.span.startByte

theorem Checker.overtaken_iff {k : Checker} {ignored : List Nat} {bytes : ByteArray} {root : Node} :
    k.Overtaken ignored bytes root ↔
      ∃ a b m n d e, a < b ∧ root.at? a = some m ∧ root.at? b = some n ∧
        k.Reports ignored bytes m d ∧ k.Reports ignored bytes n e ∧
        a <+: b ∧ n.span.endByte ≤ d.span.startByte := by
  constructor
  · rintro ⟨m, inside, c, child, n, below, d, e, first, second, front⟩
    obtain ⟨a, here⟩ := Node.exists_at?_of_mem_preorder inside
    obtain ⟨b, before, under, there⟩ := (Node.at?_prefix_iff here).mp ⟨c, child, below⟩
    exact ⟨a, b, m, n, d, e, before, here, there, first, second, under, front⟩
  · rintro ⟨a, b, m, n, d, e, before, here, there, first, second, under, front⟩
    obtain ⟨c, child, below⟩ := (Node.at?_prefix_iff here).mpr ⟨b, before, under, there⟩
    exact ⟨m, Node.mem_preorder_of_at? here, c, child, n, below, d, e, first, second, front⟩

theorem collect_increasing_iff {root : Node} (placed : Placed root) (order : CalleesFirst root) (k : Checker)
    (file : Files.Path) (ignored : List Nat) (bytes : ByteArray) :
    (k.collect file ignored bytes root).Pairwise (fun g h => spot g < spot h) ↔
      ¬ k.Overtaken ignored bytes root := by
  rw [Checker.pairwise_collect_iff, Checker.overtaken_iff]
  constructor
  · rintro along ⟨a, b, m, n, d, e, before, here, there, first, second, front⟩
    have forward := along a b m n d e before here there first second
    exact (placed.place_lt_iff order before here there first.flagged second.flagged).mp forward front
  · intro free a b m n d e before here there first second
    refine (placed.place_lt_iff order before here there first.flagged second.flagged).mpr fun front => ?_
    exact free ⟨a, b, m, n, d, e, before, here, there, first, second, front⟩

/-- With callees in front of arguments, what a visitor adds to its findings is in the order of lines and columns
exactly when no reported call has another one in front of its function. So are the findings of a source without
syntax errors. -/
theorem visitTree_increasing_iff {root : Node} (placed : Placed root) (order : CalleesFirst root)
    (k : Checker) :
    (∀ bytes (v : Visitor), ∃ added, (v.visitTree k bytes root).findings = v.findings ++ added ∧
        (added.Pairwise (fun g h => spot g < spot h) ↔ ¬ k.Overtaken v.ignored bytes root)) ∧
      ∀ file source, root.firstFault? = none →
        ((checkTree k file source root).findings.Pairwise (fun g h => spot g < spot h) ↔
          ¬ k.Overtaken (ignoredLines source) source.toUTF8 root) := by
  constructor
  · intro bytes v
    exact ⟨_, v.findings_visitTree k bytes root, collect_increasing_iff placed order k _ _ _⟩
  · intro file source parsed
    rw [findings_checkTree k file source parsed]
    exact collect_increasing_iff placed order k _ _ _

/-- The tree of `() => e`. -/
def arrowTree (start stop : Nat) (body : Node) : Node :=
  branch "arrow_function" none start stop
    [branch "formal_parameters" (some "parameters") start (start + 2) [token "(" start, token ")" (start + 1)],
     token "=>" (start + 3), body]

/-- The tree of `f(e)`, or of `f<t>(e)`. -/
def callTree (field : Option String) (start name paren stop : Nat) (types : List Node)
    (argument : Node) : Node :=
  branch "call_expression" field start stop
    ([branch "identifier" (some "function") start name []] ++ types ++
      [branch "arguments" (some "arguments") paren stop
        [token "(" paren, argument, token ")" (stop - 1)]])

def statementTree (stop : Nat) (e : Node) : Node :=
  branch "program" none 0 stop [branch "expression_statement" none 0 stop [e, token ";" (stop - 1)]]

def nestedText : String := "useMemo(() => useEffect(() => 1));"

def nestedTree : Node :=
  let inner := callTree (some "body") 14 23 23 32 []
    (arrowTree 24 31 (branch "number" (some "body") 30 31 []))
  statementTree 34 (callTree none 0 7 7 33 [] (arrowTree 8 32 inner))

def usualChecker : Checker := .ofConfig {}

/-- A call in the body of the function of another one. -/
theorem visitTree_nestedTree :
    Placed nestedTree ∧ CalleesFirst nestedTree ∧ nestedTree.firstFault? = none ∧
      (checkTree usualChecker ⟨"a.js"⟩ nestedText nestedTree).findings.map spot =
        [toLex (1, 9), toLex (1, 25)] ∧
      ¬ usualChecker.Overtaken (ignoredLines nestedText) nestedText.toUTF8 nestedTree := by
  have placed : Placed nestedTree := by decide +kernel
  have order : CalleesFirst nestedTree := by decide +kernel
  have parsed : nestedTree.firstFault? = none := rfl
  have spots : (checkTree usualChecker ⟨"a.js"⟩ nestedText nestedTree).findings.map spot =
      [toLex (1, 9), toLex (1, 25)] := by
    rw [findings_checkTree _ _ _ parsed]
    decide +kernel
  have increasing : ((checkTree usualChecker ⟨"a.js"⟩ nestedText nestedTree).findings.map spot).Pairwise
      (· < ·) := by
    rw [spots]
    decide
  exact ⟨placed, order, parsed, spots, ((visitTree_increasing_iff placed order usualChecker).2 _ _ parsed).mp
    (List.pairwise_map.mp increasing)⟩

def typeofText : String := "useMemo<(typeof useEffect(() => \x7b\x7d))[]>(() => 1);"

def typeofTree : Node :=
  let block := branch "statement_block" (some "body") 32 34 [token "\x7b" 32, token "\x7d" 33]
  let query := branch "type_query" none 9 35
    [token "typeof" 9, callTree none 16 25 25 35 [] (arrowTree 26 34 block)]
  let group := branch "parenthesized_type" none 8 36 [token "(" 8, query, token ")" 35]
  let types := branch "type_arguments" (some "type_arguments") 7 39
    [token "<" 7, branch "array_type" none 8 38 [group, token "[" 36, token "]" 37], token ">" 38]
  statementTree 49 (callTree none 0 7 39 48 [types]
    (arrowTree 40 47 (branch "number" (some "body") 46 47 [])))

/-- A call among the type arguments of another one is collected behind it, but stands in front of it. -/
theorem typeofTree_backwards :
    Placed typeofTree ∧ CalleesFirst typeofTree ∧ typeofTree.firstFault? = none ∧
      (checkTree usualChecker ⟨"a.ts"⟩ typeofText typeofTree).findings.map spot =
        [toLex (1, 41), toLex (1, 27)] ∧
      ¬ (checkTree usualChecker ⟨"a.ts"⟩ typeofText typeofTree).findings.Pairwise
        fun g h => spot g < spot h := by
  have parsed : typeofTree.firstFault? = none := rfl
  have spots : (checkTree usualChecker ⟨"a.ts"⟩ typeofText typeofTree).findings.map spot =
      [toLex (1, 41), toLex (1, 27)] := by
    rw [findings_checkTree _ _ _ parsed]
    decide +kernel
  refine ⟨by decide +kernel, by decide +kernel, parsed, spots, fun increasing => ?_⟩
  have backwards := List.pairwise_map.mpr increasing
  rw [spots] at backwards
  revert backwards
  decide

end HookLint.Check
