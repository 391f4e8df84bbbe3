import HookLint.Proofs.Text.Encoding
import HookLint.Text.Span
import HookLint.Text.Split
import Mathlib.Data.List.DropRight
import Mathlib.Data.List.Infix

/-! Lines of a text. The line at a place is reached by counting the line feeds in front of the place, whether
these are counted among the bytes, by a cursor on its way, or as ends of pieces. -/
namespace HookLint.Text

theorem occurs_iff {word text : List Char} : occurs word text ↔ word <:+: text := by
  induction text with
  | nil => rw [occurs, List.isEmpty_iff, List.infix_nil]
  | cons c cs ih => rw [occurs, Bool.or_eq_true, ih, List.isPrefixOf_iff_prefix, List.infix_cons_iff]

section Pieces

variable {separator : Char}

theorem split_cons_of_ne {c : Char} (other : c ≠ separator) (cs : List Char) :
    ∃ piece pieces, split separator cs = piece :: pieces ∧
      split separator (c :: cs) = (c :: piece) :: pieces := by
  obtain ⟨piece, pieces, cut⟩ := List.exists_cons_of_ne_nil (split_ne_nil separator cs)
  exact ⟨piece, pieces, cut, by simp only [split, if_neg other, cut]⟩

theorem length_split (text : List Char) : (split separator text).length = text.count separator + 1 := by
  induction text with
  | nil => rfl
  | cons c cs ih =>
    by_cases here : c = separator
    · rw [split, if_pos here, List.length_cons, ih, here, List.count_cons_self]
    · obtain ⟨piece, pieces, cut, grown⟩ := split_cons_of_ne here cs
      rw [List.count_cons_of_ne here, ← ih, cut, grown]
      rfl

theorem head?_split (text : List Char) :
    (split separator text).head? = some (text.takeWhile (· ≠ separator)) := by
  induction text with
  | nil => rfl
  | cons c cs ih =>
    by_cases here : c = separator
    · rw [split, if_pos here, List.takeWhile_cons_of_neg (by simpa using here), List.head?_cons]
    · obtain ⟨piece, pieces, cut, grown⟩ := split_cons_of_ne here cs
      rw [cut, List.head?_cons] at ih
      rw [grown, List.takeWhile_cons_of_pos (by simpa using here), ← Option.some.inj ih, List.head?_cons]

/-- The pieces of a text, each behind its separator, make up the text. -/
theorem eq_of_split {text first : List Char} {rest : List (List Char)}
    (cut : split separator text = first :: rest) : text = first ++ rest.flatMap (separator :: ·) := by
  induction text generalizing first rest with
  | nil =>
    obtain ⟨rfl, rfl⟩ := List.cons.inj cut
    rfl
  | cons c cs ih =>
    by_cases here : c = separator
    · rw [split, if_pos here] at cut
      obtain ⟨rfl, rfl⟩ := List.cons.inj cut
      obtain ⟨piece, pieces, below⟩ := List.exists_cons_of_ne_nil (split_ne_nil separator cs)
      rw [below, List.nil_append, List.flatMap_cons, List.cons_append, ← ih below, here]
    · obtain ⟨piece, pieces, below, grown⟩ := split_cons_of_ne here cs
      obtain ⟨rfl, rfl⟩ := List.cons.inj (grown.symm.trans cut)
      rw [List.cons_append, ← ih below]

end Pieces

/-- The line around a place in a text, by what is in front of the place and what is behind: as far as there is
no line feed on either side. -/
def lineAround (front back : List Char) : List Char :=
  front.rtakeWhile (· ≠ '\n') ++ back.takeWhile (· ≠ '\n')

/-- A text is one line up to its end, or it has a last line feed. -/
theorem last_feed (text : List Char) :
    '\n' ∉ text ∨ ∃ pre rest, text = pre ++ '\n' :: rest ∧ '\n' ∉ rest := by
  by_cases inside : '\n' ∈ text
  · obtain ⟨rest, pre, cut, free⟩ := List.eq_append_cons_of_mem (List.mem_reverse.mpr inside)
    refine Or.inr ⟨pre.reverse, rest.reverse, ?_, fun member => free (List.mem_reverse.mp member)⟩
    rw [← List.reverse_reverse text, cut, List.reverse_append, List.reverse_cons, List.append_assoc,
      List.singleton_append]
  · exact Or.inl inside

theorem takeWhile_of_free {text : List Char} (free : '\n' ∉ text) (rest : List Char) :
    (text ++ rest).takeWhile (· ≠ '\n') = text ++ rest.takeWhile (· ≠ '\n') := by
  refine List.takeWhile_append_of_pos fun c member => ?_
  exact decide_eq_true fun same => free (same ▸ member)

theorem lineAround_of_free {front : List Char} (free : '\n' ∉ front) (back : List Char) :
    lineAround front back = (front ++ back).takeWhile (· ≠ '\n') := by
  have all : front.rtakeWhile (· ≠ '\n') = front :=
    List.rtakeWhile_eq_self_iff.mpr fun c member => decide_eq_true fun same => free (same ▸ member)
  rw [lineAround, all, takeWhile_of_free free]

theorem lineAround_of_feed (pre : List Char) {rest : List Char} (free : '\n' ∉ rest) (back : List Char) :
    lineAround (pre ++ '\n' :: rest) back = lineAround rest back := by
  have same : (pre ++ '\n' :: rest).rtakeWhile (· ≠ '\n') = rest.rtakeWhile (· ≠ '\n') := by
    have free' : '\n' ∉ rest.reverse := fun member => free (List.mem_reverse.mp member)
    have turned : (pre ++ '\n' :: rest).reverse = rest.reverse ++ '\n' :: pre.reverse := by simp
    have whole := takeWhile_of_free free' []
    rw [List.append_nil, List.takeWhile_nil, List.append_nil] at whole
    rw [List.rtakeWhile, List.rtakeWhile, turned, takeWhile_of_free free', whole,
      List.takeWhile_cons_of_neg (by decide), List.append_nil]
  rw [lineAround, same, lineAround]

/-- The line around a place is the piece with as many pieces in front of it as there are line feeds. -/
theorem getElem?_lines (front back : List Char) :
    (lines (front ++ back))[front.count '\n']? = some (lineAround front back) := by
  rcases last_feed front with free | ⟨pre, rest, rfl, free⟩
  · rw [List.count_eq_zero.mpr free, ← List.head?_eq_getElem?, lines, head?_split, lineAround_of_free free]
  · have feeds : (pre ++ '\n' :: rest).count '\n' = (split '\n' pre).length := by
      rw [length_split, List.count_append, List.count_cons_self, List.count_eq_zero.mpr free]
    rw [feeds, lines, List.append_assoc, List.cons_append, split_append, List.getElem?_append_right (le_refl _),
      Nat.sub_self, ← List.head?_eq_getElem?, head?_split, lineAround_of_feed pre free,
      lineAround_of_free free]

/-- Every line is around some place. -/
theorem exists_front_of_le {text : List Char} {i : Nat} (bound : i ≤ text.count '\n') :
    ∃ front back, text = front ++ back ∧ front.count '\n' = i := by
  induction text generalizing i with
  | nil => exact ⟨[], [], rfl, (Nat.le_zero.mp bound).symm⟩
  | cons c cs ih =>
    by_cases feed : c = '\n'
    · subst feed
      cases i with
      | zero => exact ⟨[], _, rfl, rfl⟩
      | succ i =>
        rw [List.count_cons_self] at bound
        obtain ⟨front, back, rfl, feeds⟩ := ih (Nat.le_of_succ_le_succ bound)
        exact ⟨_ :: front, back, rfl, by rw [List.count_cons_self, feeds]⟩
    · rw [List.count_cons_of_ne feed] at bound
      obtain ⟨front, back, rfl, feeds⟩ := ih bound
      exact ⟨c :: front, back, rfl, by rw [List.count_cons_of_ne feed, feeds]⟩

section Returns

/-- A line without a carriage return at its end. -/
def dropReturn (line : List Char) : List Char := if line.getLast? = some '\r' then line.dropLast else line

/-- The pieces of a text as a count of ended lines takes them: an end may be a carriage return with the line
feed, and nothing behind the last end is no line. -/
def endedLines : List (List Char) → List (List Char)
  | [] => []
  | [last] => if last = [] then [] else [last]
  | line :: next :: rest => dropReturn line :: endedLines (next :: rest)

/-- A word without a carriage return is not lost with one. -/
theorem infix_dropReturn_iff {word : List Char} (some_char : word ≠ []) (free : '\r' ∉ word)
    (line : List Char) : word <:+: dropReturn line ↔ word <:+: line := by
  unfold dropReturn
  split
  · rename_i ends
    obtain ⟨front, rfl⟩ := List.getLast?_eq_some_iff.mp ends
    have other : ¬ word <:+ front ++ ['\r'] := by
      rintro ⟨before, same⟩
      have last := congrArg List.getLast? same
      rw [List.getLast?_append_of_ne_nil before some_char, List.getLast?_concat] at last
      exact free (List.mem_of_getLast? last)
    rw [List.dropLast_concat, List.infix_concat_iff, or_iff_right other]
  · exact Iff.rfl

end Returns

section Feeds

/-- The line feeds among the first bytes of a text. -/
def feedsBefore (source : String) (bytes : Nat) : Nat := (source.toUTF8.data.toList.take bytes).count 10

theorem mem_unitsOf {n : Nat} : 10 ∈ unitsOf n ↔ n = 10 := by
  unfold unitsOf
  split_ifs <;> simp only [List.mem_cons, List.not_mem_nil, or_false] <;> omega

theorem count_utf8EncodeChar (c : Char) : (String.utf8EncodeChar c).count 10 = [c].count '\n' := by
  by_cases feed : c = '\n'
  · rw [feed]
    rfl
  · have other : (10 : UInt8) ∉ String.utf8EncodeChar c := by
      intro inside
      have unit : 10 ∈ unitsOf c.toNat := utf8EncodeChar_eq_unitsOf c ▸ List.mem_map_of_mem inside
      exact feed (Char.toNat_inj.mp (mem_unitsOf.mp unit))
    rw [List.count_eq_zero.mpr other, List.count_eq_zero.mpr (by simpa using Ne.symm feed)]

theorem toList_toUTF8 (text : String) : text.toUTF8.data.toList = text.toList.flatMap String.utf8EncodeChar := by
  rw [String.toUTF8_eq_toByteArray, ← String.utf8Encode_toList, List.utf8Encode,
    List.toList_data_toByteArray]

theorem count_feeds (text : List Char) :
    (text.flatMap String.utf8EncodeChar).count 10 = text.count '\n' := by
  induction text with
  | nil => rfl
  | cons c cs ih =>
    rw [List.flatMap_cons, List.count_append, ih, count_utf8EncodeChar, ← List.count_append,
      List.singleton_append]

theorem feedsBefore_append (front back : String) :
    feedsBefore (front ++ back) front.utf8ByteSize = front.toList.count '\n' := by
  have size : front.utf8ByteSize = front.toUTF8.data.toList.length := rfl
  have bytes : (front ++ back).toUTF8.data.toList = front.toUTF8.data.toList ++ back.toUTF8.data.toList := by
    simp only [toList_toUTF8, String.toList_append, List.flatMap_append]
  rw [feedsBefore, bytes, size, List.take_left, toList_toUTF8, count_feeds]

namespace Place

theorem row_afterAll (p : Place) (cs : List Char) : (p.afterAll cs).row = p.row + cs.count '\n' := by
  induction cs generalizing p with
  | nil => rfl
  | cons c cs ih =>
    rw [afterAll, ih, after]
    by_cases feed : c = '\n'
    · rw [if_pos feed, feed, List.count_cons_self, Nat.add_right_comm, Nat.add_assoc]
    · rw [if_neg feed, List.count_cons_of_ne feed]

theorem byte_afterAll (p : Place) (text : String) :
    (p.afterAll text.toList).byte = p.byte + text.utf8ByteSize := by
  have size : text.utf8ByteSize = (text.toList.flatMap String.utf8EncodeChar).length := by
    rw [← toList_toUTF8]
    rfl
  rw [size]
  generalize text.toList = cs
  induction cs generalizing p with
  | nil => rfl
  | cons c cs ih =>
    have step : (p.after c).byte = p.byte + (String.utf8EncodeChar c).length := by
      rw [String.length_utf8EncodeChar, after]
      by_cases feed : c = '\n'
      · rw [if_pos feed, feed]
        rfl
      · rw [if_neg feed]
    rw [afterAll, ih, step, List.flatMap_cons, List.length_append, Nat.add_assoc]

end Place

end Feeds

end HookLint.Text
