import HookLint.Json.Printer
import Mathlib.Logic.Function.Basic
import Mathlib.Tactic.SplitIfs

/-! The text of numbers. A natural number is written by its digits alone, and no other number is: a minus
comes first, or a point or the mark of an exponent is among the digits. -/
namespace HookLint.Json

open HookLint.Number

theorem isDigit_of_mem_decimalDigits {n : Nat} {c : Char} (member : c ∈ decimalDigits n) : c.isDigit :=
  Nat.isDigit_of_mem_toDigits (by decide) (by decide) member

theorem decimalDigits_injective : Function.Injective decimalDigits := by
  intro m n same
  have value : ∀ i, Nat.ofDigitChars 10 (decimalDigits i) 0 = i := fun i =>
    Nat.ofDigitChars_toDigits (by decide) (by decide)
  rw [← value m, same, value n]

theorem exists_cons_decimalDigits (n : Nat) : ∃ c cs, decimalDigits n = c :: cs ∧ c.isDigit := by
  obtain ⟨c, cs, whole⟩ := List.exists_cons_of_ne_nil (Nat.toDigits_ne_nil (n := n) (b := 10))
  exact ⟨c, cs, whole, isDigit_of_mem_decimalDigits (whole ▸ List.mem_cons_self)⟩

/-- The text begins with a digit, and not all of it are digits. -/
structure LooksReal (text : List Char) : Prop where
  digitFirst : ∃ c cs, text = c :: cs ∧ c.isDigit
  mixed : ∃ c ∈ text, ¬ c.isDigit

theorem looksReal_cons {c : Char} {cs : List Char} (digit : c.isDigit) (mark : Char) (member : mark ∈ cs)
    (other : ¬ mark.isDigit) : LooksReal (c :: cs) :=
  ⟨⟨c, cs, rfl, digit⟩, mark, List.mem_cons_of_mem c member, other⟩

theorem looksReal_realText (x : Double) : LooksReal (realText x) := by
  obtain ⟨c, cs, whole, digit⟩ := exists_cons_decimalDigits x.shortest.digits
  unfold realText
  simp only [whole]
  split_ifs
  · exact looksReal_cons digit 'e' (by simp) (by decide)
  · exact looksReal_cons digit 'e' (by simp) (by decide)
  · exact looksReal_cons digit '.' (by simp) (by decide)
  · exact looksReal_cons digit '.' (by simp) (by decide)
  · exact looksReal_cons (by decide) '.' (by simp) (by decide)

theorem Number.text_eq_decimalDigits_iff {n : Number} {m : Nat} :
    n.text = decimalDigits m ↔ n = .natural m := by
  have digits : ∀ c ∈ decimalDigits m, c.isDigit := fun c => isDigit_of_mem_decimalDigits
  constructor
  · intro same
    match n with
    | natural k => rw [decimalDigits_injective same]
    | negative k =>
      have minus : '-' ∈ decimalDigits m := same ▸ List.mem_cons_self
      exact absurd (digits '-' minus) (by decide)
    | real false x =>
      obtain ⟨c, member, other⟩ := (looksReal_realText x).mixed
      have inside : c ∈ decimalDigits m := same ▸ member
      exact absurd (digits c inside) other
    | real true x =>
      have minus : '-' ∈ decimalDigits m := same ▸ List.mem_cons_self
      exact absurd (digits '-' minus) (by decide)
  · rintro rfl
    rfl

theorem Number.exists_cons_text (n : Number) : ∃ c cs, n.text = c :: cs ∧ (c = '-' ∨ c.isDigit) := by
  match n with
  | natural k =>
    obtain ⟨c, cs, whole, digit⟩ := exists_cons_decimalDigits k
    exact ⟨c, cs, whole, Or.inr digit⟩
  | real false x =>
    obtain ⟨c, cs, whole, digit⟩ := (looksReal_realText x).digitFirst
    exact ⟨c, cs, whole, Or.inr digit⟩
  | negative k => exact ⟨'-', _, rfl, Or.inl rfl⟩
  | real true x => exact ⟨'-', _, rfl, Or.inl rfl⟩

end HookLint.Json
