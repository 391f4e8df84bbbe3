import HookLint.Proofs.Check.DocumentOrder
import HookLint.Proofs.Hook.Editing

/-! Comments and parentheses do not change a verdict. A walk sees the calls that it saw before them. -/
namespace HookLint.Check

open HookLint.Hook HookLint.Text HookLint.Tree

theorem visitTree_of_calls (k : Checker) {bytes bytes' : ByteArray} {t t' : Node}
    (calls : callsIn bytes' t' = callsIn bytes t) (v : Visitor) :
    v.visitTree k bytes' t' = v.visitTree k bytes t := by
  rw [Visitor.visitTree_eq_after, Visitor.visitTree_eq_after]
  exact congrArg (v.after k) calls

/-- In a tree to which comments and parentheses were added, in a text where its names are spelled as before, the
same calls are lowered, in the same order and with the same places. So any visitor counts the same calls, and
collects and passes over the same findings. -/
theorem visitTree_of_edits (k : Checker) {bytes bytes' : ByteArray} {t t' : Node} (edits : Edits t t')
    (names : SameNames bytes bytes' t) (v : Visitor) :
    t'.preorder.filterMap (lowerCall? bytes') = t.preorder.filterMap (lowerCall? bytes) ∧
      v.visitTree k bytes' t' = v.visitTree k bytes t := by
  have calls : callsIn bytes' t' = callsIn bytes t := (callsIn_of_edits edits).trans names.callsIn
  exact ⟨calls, visitTree_of_calls k calls v⟩

/-- Each text has a visitor of its own. It is the same visitor if the ignore mark is on the same lines of both. -/
theorem visitTree_start_of_edits (k : Checker) (file : Files.Path) {source source' : String} {t t' : Node}
    (edits : Edits t t') (names : SameNames source.toUTF8 source'.toUTF8 t)
    (lines : ignoredLines source' = ignoredLines source) :
    (Visitor.start file source').visitTree k source'.toUTF8 t' =
      (Visitor.start file source).visitTree k source.toUTF8 t := by
  have calls : callsIn source'.toUTF8 t' = callsIn source.toUTF8 t :=
    (callsIn_of_edits edits).trans names.callsIn
  rw [visitTree_of_calls k calls, Visitor.start, Visitor.start, lines]

/-- So a source that is dressed up in this way, and still parses, comes to the same. -/
theorem checkTree_of_edits (k : Checker) (file : Files.Path) {source source' : String} {t t' : Node}
    (edits : Edits t t') (names : SameNames source.toUTF8 source'.toUTF8 t)
    (lines : ignoredLines source' = ignoredLines source) (parsed : t.firstFault? = none)
    (parsed' : t'.firstFault? = none) : checkTree k file source' t' = checkTree k file source t := by
  simp only [checkTree, parsed, parsed', visitTree_start_of_edits k file edits names lines]

def bareText : String := "useMemo(          () => list[ i ] );"

def dressedText : String := "useMemo(/* why */(() => list[(i)]));"

/-- The function of both texts, with the node of the index. -/
def listArrow (index : Node) : Node :=
  branch "arrow_function" none 18 33
    [branch "formal_parameters" (some "parameters") 18 20 [token "(" 18, token ")" 19], token "=>" 21,
     branch "subscript_expression" (some "body") 24 33
      [branch "identifier" (some "object") 24 28 [], token "[" 28, index, token "]" 32]]

/-- The call of both texts, with what stands between its parentheses. -/
def memoTree (inner : List Node) : Node :=
  branch "call_expression" none 0 35
    [branch "identifier" (some "function") 0 7 [],
     branch "arguments" (some "arguments") 7 35 ([token "(" 7] ++ (inner ++ [token ")" 34]))]

def bareIndex : Node := branch "identifier" (some "index") 30 31 []

def enclosed (field : Option String) (start stop : Nat) (c : Node) : Node :=
  branch "parenthesized_expression" field start stop
    ([token "(" start] ++ c.inField none :: [token ")" (stop - 1)])

def why : Node := .mk { kind := "comment", named := true, extra := true, span := ⟨8, 17, 1, 9⟩ } []

def dressedIndex : Node := enclosed (some "index") 29 32 bareIndex

def bareTree : Node := memoTree [listArrow bareIndex]

def dressedTree : Node := memoTree [why, enclosed none 17 34 (listArrow dressedIndex)]

theorem enclosed_encloses {c : Node} (argument : c.info.isArgument) (start stop : Nat) :
    (enclosed c.info.field start stop c).Encloses c where
  kind := rfl
  named := rfl
  noExtra := rfl
  field := rfl
  argument := argument
  around := by
    refine ⟨none, _, _, rfl, ?_⟩
    intro m member
    have mark : m = token "(" start ∨ m = token ")" (stop - 1) := by simpa using member
    rcases mark with rfl | rfl
    · exact ⟨rfl, by simp [Node.Callless, token, Node.preorder, Node.preorderAll]⟩
    · exact ⟨rfl, by simp [Node.Callless, token, Node.preorder, Node.preorderAll]⟩

theorem bareTree_edits : Edits bareTree dressedTree := by
  have inMemo : ∀ {inner inner' : List Node},
      Edit (branch "arguments" (some "arguments") 7 35 ([token "(" 7] ++ (inner ++ [token ")" 34])))
        (branch "arguments" (some "arguments") 7 35 ([token "(" 7] ++ (inner' ++ [token ")" 34]))) →
      Edit (memoTree inner) (memoTree inner') :=
    fun edit => .inside _ [branch "identifier" (some "function") 0 7 []] [] edit
  have index : Edit (listArrow bareIndex) (listArrow dressedIndex) := by
    have enclose := enclosed_encloses (c := bareIndex) rfl 29 32
    exact .inside _ [_, token "=>" 21] [] (.enclose _ [_, token "[" 28] [token "]" 32] (.index rfl rfl) enclose)
  have arrow := enclosed_encloses (c := listArrow dressedIndex) rfl 17 34
  have comment : why.Comment := ⟨rfl, rfl, by simp [Node.Callless, why, Node.preorder, Node.preorderAll]⟩
  have first : Edit bareTree (memoTree [listArrow dressedIndex]) := inMemo (.inside _ [_] [_] index)
  have second : Edit (memoTree [listArrow dressedIndex])
      (memoTree [enclosed none 17 34 (listArrow dressedIndex)]) :=
    inMemo (.enclose _ [_] [_] (.argument rfl) arrow)
  have third : Edit (memoTree [enclosed none 17 34 (listArrow dressedIndex)]) dressedTree :=
    inMemo (.comment _ [_] [_, _] comment)
  exact ((Relation.ReflTransGen.single first).tail second).tail third

theorem visitTree_dressedTree :
    Edits bareTree dressedTree ∧ SameNames bareText.toUTF8 dressedText.toUTF8 bareTree ∧
      (Visitor.start ⟨"a.js"⟩ bareText).visitTree usualChecker dressedText.toUTF8 dressedTree =
        (Visitor.start ⟨"a.js"⟩ bareText).visitTree usualChecker bareText.toUTF8 bareTree ∧
      (dressedTree.preorder.filterMap (lowerCall? dressedText.toUTF8)).filterMap
        (detect? usualChecker.hooks) = [⟨"useMemo", .arrow, ⟨18, 33, 1, 19⟩⟩] := by
  have names : SameNames bareText.toUTF8 dressedText.toUTF8 bareTree := by
    unfold SameNames IsName
    decide +kernel
  have calls := visitTree_of_edits usualChecker bareTree_edits names (Visitor.start ⟨"a.js"⟩ bareText)
  have found : (bareTree.preorder.filterMap (lowerCall? bareText.toUTF8)).filterMap
      (detect? usualChecker.hooks) = [⟨"useMemo", .arrow, ⟨18, 33, 1, 19⟩⟩] := by decide +kernel
  refine ⟨bareTree_edits, names, calls.2, ?_⟩
  rw [calls.1, found]

end HookLint.Check
