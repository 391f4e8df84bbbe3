import HookLint.Proofs.Check.Traversal
import HookLint.Proofs.Text.Lines

/-! Findings that are passed over. A finding carries the number of its line as a count of line feeds, and
the lines with the mark carry theirs as a count of pieces; at every place of every text the two are of one
line. -/
namespace HookLint

namespace Hook

open HookLint.Text

section Numbers

variable {p : List Char → Bool} {k n : Nat}

theorem mem_numbersWhere_cons_iff {first : List Char} {rest : List (List Char)} :
    n ∈ numbersWhere p k (first :: rest) ↔ p first ∧ n = k ∨ n ∈ numbersWhere p (k + 1) rest := by
  rw [numbersWhere]
  by_cases holds : p first
  · rw [if_pos holds, List.mem_cons, and_iff_right holds]
  · rw [if_neg holds, or_iff_right fun here => holds here.1]

theorem mem_numbersWhere_iff {pieces : List (List Char)} :
    n ∈ numbersWhere p k pieces ↔ ∃ i piece, pieces[i]? = some piece ∧ p piece ∧ n = k + i := by
  induction pieces generalizing k with
  | nil => simp [numbersWhere]
  | cons first rest ih =>
    rw [mem_numbersWhere_cons_iff, ih]
    constructor
    · rintro (⟨holds, here⟩ | ⟨i, piece, found, holds, number⟩)
      · exact ⟨0, first, rfl, holds, here⟩
      · exact ⟨i + 1, piece, found, holds, by omega⟩
    · rintro ⟨i, piece, found, holds, number⟩
      cases i with
      | zero =>
        cases Option.some.inj found
        exact Or.inl ⟨holds, number⟩
      | succ i => exact Or.inr ⟨i, piece, found, holds, by omega⟩

/-- A test that no ending changes, and that the empty line fails, finds the same lines among the ended ones. -/
theorem numbersWhere_endedLines (kept : ∀ line, p (dropReturn line) = p line) (empty : p [] = false)
    (pieces : List (List Char)) : numbersWhere p k (endedLines pieces) = numbersWhere p k pieces := by
  induction pieces generalizing k with
  | nil => rfl
  | cons line rest ih =>
    cases rest with
    | nil =>
      by_cases none : line = []
      · simp [endedLines, numbersWhere, none, empty]
      · rw [endedLines, if_neg none]
    | cons next rest => simp only [endedLines, numbersWhere, kept, ih]

end Numbers

theorem carriesMark_iff {line : List Char} : carriesMark line ↔ ignoreMark.toList <:+: line := occurs_iff

theorem carriesMark_dropReturn (line : List Char) : carriesMark (dropReturn line) = carriesMark line := by
  rw [Bool.eq_iff_iff, carriesMark_iff, carriesMark_iff]
  exact infix_dropReturn_iff (by decide) (by decide) line

/-- The line around the place between two parts of a source has the mark. -/
def MarkedBetween (front back : String) : Prop :=
  ignoreMark.toList <:+: lineAround front.toList back.toList

instance (front back : String) : Decidable (MarkedBetween front back) :=
  inferInstanceAs (Decidable (_ <:+: _))

theorem mem_ignoredLines_iff (front back : String) :
    1 + front.toList.count '\n' ∈ ignoredLines (front ++ back) ↔ MarkedBetween front back := by
  have here := getElem?_lines front.toList back.toList
  rw [ignoredLines, mem_numbersWhere_iff, String.toList_append, MarkedBetween, ← carriesMark_iff]
  constructor
  · rintro ⟨i, line, found, marked, number⟩
    -- a number is that of one piece only
    have row : front.toList.count '\n' = i := by omega
    rw [← row, here] at found
    exact Option.some.inj found ▸ marked
  · intro marked
    exact ⟨_, _, here, marked, rfl⟩

theorem exists_front_of_mem {source : String} {n : Nat} (member : n ∈ ignoredLines source) :
    ∃ front back : String, source = front ++ back ∧ n = 1 + front.toList.count '\n' := by
  obtain ⟨i, line, found, -, rfl⟩ := mem_numbersWhere_iff.mp member
  have bound := (List.getElem?_eq_some_iff.mp found).1
  rw [lines, length_split] at bound
  obtain ⟨front, back, cut, feeds⟩ := exists_front_of_le (Nat.le_of_lt_succ bound)
  refine ⟨String.ofList front, String.ofList back, ?_, by rw [String.toList_ofList, feeds]⟩
  rw [← String.ofList_append, ← cut, String.ofList_toList]

end Hook

namespace Check

open HookLint.Hook HookLint.Text

theorem findings_visitCall {k : Checker} {v : Visitor} {call : Call} {d : Diagnostic}
    (found : detect? k.hooks call = some d) :
    (v.visitCall k call).findings =
      v.findings ++ if d.span.line ∈ v.ignored then [] else [d.finding v.file k.severity] := by
  rw [Visitor.visitCall_eq_after, Visitor.after]
  by_cases ignored : d.span.line ∈ v.ignored
  · simp [Checker.finding?, found, ignored]
  · simp [Checker.finding?, found, ignored]

/-- A call whose function starts between two parts of the source has no finding if and only if the line there,
from line feed to line feed, has the mark. It makes no difference that a count of ended lines takes a carriage
return for a part of the end and knows no line behind the last one. -/
theorem visitCall_drops_marked (source : String) :
    (∀ front back : String, source = front ++ back →
      (Place.start.afterAll front.toList).byte = front.utf8ByteSize ∧
        (Place.start.afterAll front.toList).position.line = 1 + feedsBefore source front.utf8ByteSize ∧
        (1 + feedsBefore source front.utf8ByteSize ∈ ignoredLines source ↔ MarkedBetween front back) ∧
        ∀ (k : Checker) (v : Visitor) (call : Call) (d : Diagnostic), v.ignored = ignoredLines source →
          detect? k.hooks call = some d → d.span.startByte = front.utf8ByteSize →
          d.span.line = 1 + feedsBefore source d.span.startByte →
          (v.visitCall k call).findings =
            v.findings ++ if MarkedBetween front back then [] else [d.finding v.file k.severity]) ∧
      (∀ n ∈ ignoredLines source, ∃ front back : String, source = front ++ back ∧
        n = 1 + feedsBefore source front.utf8ByteSize ∧ MarkedBetween front back) ∧
      ignoredLines source = numbersWhere carriesMark 1 (endedLines (lines source.toList)) := by
  refine ⟨?_, ?_, (numbersWhere_endedLines carriesMark_dropReturn (by decide) _).symm⟩
  · rintro front back rfl
    have feeds := feedsBefore_append front back
    have marked := mem_ignoredLines_iff front back
    rw [← feeds] at marked
    refine ⟨?_, ?_, marked, ?_⟩
    · rw [Place.byte_afterAll, Place.start, Nat.zero_add]
    · rw [Place.position, Place.row_afterAll, Place.start, feeds, Nat.zero_add, Nat.add_comm]
    · intro k v call d lines found byte line
      rw [findings_visitCall found, line, byte, lines]
      exact congrArg _ (if_congr marked rfl rfl)
  · intro n member
    obtain ⟨front, back, rfl, number⟩ := exists_front_of_mem member
    rw [number] at member
    have marked := (mem_ignoredLines_iff front back).mp member
    exact ⟨front, back, rfl, by rw [feedsBefore_append, number], marked⟩

def reportedPart : String := "useMemo("
def middlePart : String := "() => 0)\r\nuseMemo("
def markedPart : String := "() => 1) // named-hooks-ignore\r"

/-- Of two calls the second is on a line with the mark, the last one and without a line feed. -/
def twoCalls : String := reportedPart ++ (middlePart ++ markedPart)

def memoOf (function : Span) : Call where
  callee := .identifier ⟨"useMemo", default⟩
  arguments := [.arrow function]
  span := default

def memoAt (function : Span) : Diagnostic := ⟨"useMemo", .arrow, function⟩

theorem visitCall_twoCalls :
    detect? ({} : Config).hooks (memoOf ⟨8, 15, 1, 9⟩) = some (memoAt ⟨8, 15, 1, 9⟩) ∧
      detect? ({} : Config).hooks (memoOf ⟨26, 33, 2, 9⟩) = some (memoAt ⟨26, 33, 2, 9⟩) ∧
      1 = 1 + feedsBefore twoCalls 8 ∧ 2 = 1 + feedsBefore twoCalls 26 ∧ ignoredLines twoCalls = [2] ∧
      ((Visitor.start default twoCalls).visitCall (.ofConfig {}) (memoOf ⟨8, 15, 1, 9⟩)).findings =
        [(memoAt ⟨8, 15, 1, 9⟩).finding default .error] ∧
      ((Visitor.start default twoCalls).visitCall (.ofConfig {}) (memoOf ⟨26, 33, 2, 9⟩)).findings = [] := by
  obtain ⟨places, -, -⟩ := visitCall_drops_marked twoCalls
  obtain ⟨-, -, -, reported⟩ := places reportedPart (middlePart ++ markedPart) rfl
  obtain ⟨-, -, -, dropped⟩ := places (reportedPart ++ middlePart) markedPart (by decide)
  have first : detect? ({} : Config).hooks (memoOf ⟨8, 15, 1, 9⟩) = some (memoAt ⟨8, 15, 1, 9⟩) := by decide
  have second : detect? ({} : Config).hooks (memoOf ⟨26, 33, 2, 9⟩) = some (memoAt ⟨26, 33, 2, 9⟩) := by
    decide
  have one : 1 = 1 + feedsBefore twoCalls 8 := by decide
  have two : 2 = 1 + feedsBefore twoCalls 26 := by decide
  have unmarked : ¬ MarkedBetween reportedPart (middlePart ++ markedPart) := by decide
  have marked : MarkedBetween (reportedPart ++ middlePart) markedPart := by decide
  refine ⟨first, second, one, two, by decide, ?_, ?_⟩
  · rw [reported (.ofConfig {}) (.start default twoCalls) _ _ rfl first (by decide) one, if_neg unmarked]
    rfl
  · rw [dropped (.ofConfig {}) (.start default twoCalls) _ _ rfl second (by decide) two, if_pos marked]
    rfl

end Check

end HookLint
