import Mathlib.Data.List.Lex
import Mathlib.Order.Defs.LinearOrder

/-! Texts as bytes. The bytes of two texts compare as their characters do, so an order of characters is
an order of bytes. -/
namespace HookLint.Text

/-- The bytes of the character of a number. -/
def unitsOf (n : Nat) : List Nat :=
  if n ≤ 127 then [n]
  else if n ≤ 2047 then [n / 64 + 192, n % 64 + 128]
  else if n ≤ 65535 then [n / 4096 + 224, n / 64 % 64 + 128, n % 64 + 128]
  else [n / 262144 + 240, n / 4096 % 64 + 128, n / 64 % 64 + 128, n % 64 + 128]

theorem toNat_lt (c : Char) : c.toNat < 1114112 := by
  rcases c.valid with low | ⟨_, high⟩
  · exact Nat.lt_trans low (by decide)
  · exact high

theorem utf8EncodeChar_eq_unitsOf (c : Char) :
    (String.utf8EncodeChar c).map UInt8.toNat = unitsOf c.toNat := by
  have bound := toNat_lt c
  have value : c.val.toNat = c.toNat := rfl
  unfold String.utf8EncodeChar unitsOf
  simp only [value]
  split_ifs <;> simp <;> omega

/-- A smaller number has smaller bytes, whatever stands behind them. -/
theorem unitsOf_append_lt {m n : Nat} (less : m < n) (xs ys : List Nat) :
    unitsOf m ++ xs < unitsOf n ++ ys := by
  unfold unitsOf
  split_ifs <;> simp only [List.cons_append, List.nil_append, List.cons_lt_cons_iff] <;> omega

/-- The bytes of a text. -/
def bytesOf (text : List Char) : List Nat :=
  text.flatMap fun c => (String.utf8EncodeChar c).map UInt8.toNat

theorem bytesOf_cons (c : Char) (cs : List Char) : bytesOf (c :: cs) = unitsOf c.toNat ++ bytesOf cs := by
  rw [bytesOf, List.flatMap_cons, utf8EncodeChar_eq_unitsOf, ← bytesOf]

theorem unitsOf_ne_nil (n : Nat) : unitsOf n ≠ [] := by
  unfold unitsOf
  split_ifs <;> simp

theorem bytesOf_lt {cs ds : List Char} (less : cs.map Char.toNat < ds.map Char.toNat) :
    bytesOf cs < bytesOf ds := by
  induction cs generalizing ds with
  | nil =>
    cases ds with
    | nil => exact absurd less (lt_irrefl _)
    | cons d ds =>
      obtain ⟨u, us, first⟩ := List.exists_cons_of_ne_nil (unitsOf_ne_nil d.toNat)
      rw [bytesOf_cons, first]
      exact List.nil_lt_cons u _
  | cons c cs ih =>
    cases ds with
    | nil => exact absurd less (List.not_lt_nil _)
    | cons d ds =>
      rw [List.map_cons, List.map_cons, List.cons_lt_cons_iff] at less
      rw [bytesOf_cons, bytesOf_cons]
      rcases less with first | ⟨same, rest⟩
      · exact unitsOf_append_lt first _ _
      · rw [same]
        exact List.append_left_lt (ih rest)

/-- The bytes of texts are in the order of their characters. -/
theorem bytesOf_lt_iff {cs ds : List Char} :
    bytesOf cs < bytesOf ds ↔ cs.map Char.toNat < ds.map Char.toNat := by
  refine ⟨fun less => ?_, bytesOf_lt⟩
  rcases lt_trichotomy (cs.map Char.toNat) (ds.map Char.toNat) with before | same | after
  · exact before
  · have toNat : Function.Injective Char.toNat := fun a b h => Char.toNat_inj.mp h
    exact absurd less (List.map_injective_iff.mpr toNat same ▸ lt_irrefl _)
  · exact absurd (less.trans (bytesOf_lt after)) (lt_irrefl _)

end HookLint.Text
