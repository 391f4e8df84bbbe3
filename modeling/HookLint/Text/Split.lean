/-!
Cutting a text at a separator, and looking for a text inside another.
-/
namespace HookLint.Text

/-- The pieces between the separators, one more than there are separators. -/
def split (separator : Char) : List Char → List (List Char)
  | [] => [[]]
  | c :: cs =>
    if c = separator then [] :: split separator cs
    else
      match split separator cs with
      | [] => [[c]]
      | piece :: pieces => (c :: piece) :: pieces

/-- The lines of a text. Only the line feed ends a line, and what follows the last one is a line too. -/
def lines (text : List Char) : List (List Char) := split '\n' text

def occurs (word : List Char) : List Char → Bool
  | [] => word.isEmpty
  | c :: cs => word.isPrefixOf (c :: cs) || occurs word cs

theorem split_ne_nil (separator : Char) (text : List Char) : split separator text ≠ [] := by
  cases text with
  | nil => simp [split]
  | cons c cs =>
    unfold split
    split
    · simp
    · split <;> simp

theorem split_of_not_mem {separator : Char} {text : List Char} (free : separator ∉ text) :
    split separator text = [text] := by
  induction text with
  | nil => rfl
  | cons c cs ih =>
    have other : c ≠ separator := by
      intro same
      exact free (same ▸ List.mem_cons_self)
    have rest : separator ∉ cs := fun member => free (List.mem_cons_of_mem c member)
    simp only [split, other, if_false, ih rest]

theorem not_mem_of_mem_split {separator : Char} {text piece : List Char}
    (member : piece ∈ split separator text) : separator ∉ piece := by
  induction text generalizing piece with
  | nil =>
    rw [split, List.mem_singleton] at member
    rw [member]
    exact List.not_mem_nil
  | cons c cs ih =>
    by_cases here : c = separator
    · simp only [split, here, if_true, List.mem_cons] at member
      rcases member with empty | member
      · rw [empty]
        exact List.not_mem_nil
      · exact ih member
    · cases pieces : split separator cs with
      | nil => exact absurd pieces (split_ne_nil separator cs)
      | cons first rest =>
        simp only [split, here, if_false, pieces, List.mem_cons] at member
        have inside : ∀ q, q = first ∨ q ∈ rest → separator ∉ q := by
          intro q h
          exact ih (pieces ▸ List.mem_cons.mpr h)
        rcases member with grown | member
        · rw [grown, List.mem_cons, not_or]
          exact ⟨fun same => here same.symm, inside first (Or.inl rfl)⟩
        · exact inside piece (Or.inr member)

theorem split_append (separator : Char) (front back : List Char) :
    split separator (front ++ separator :: back) = split separator front ++ split separator back := by
  induction front with
  | nil => simp only [split, if_true, List.nil_append, List.cons_append]
  | cons c cs ih =>
    by_cases here : c = separator
    · simp only [split, here, if_true, List.cons_append, ih]
    · simp only [split, here, if_false, List.cons_append, ih]
      -- the pieces in front are not empty, so the first of them takes the character on both sides
      cases pieces : split separator cs with
      | nil => exact absurd pieces (split_ne_nil separator cs)
      | cons piece rest => rfl

end HookLint.Text
