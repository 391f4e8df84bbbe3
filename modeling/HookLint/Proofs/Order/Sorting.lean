import Mathlib.Data.List.Sort

/-! A stable sort of blocks. What the sort does to a list of blocks follows from what insertion does to
one element, so the sort is first read as a fold of insertions. -/
namespace HookLint.Order

/-- An order in which different elements may stand at the same place. -/
structure IsWeakOrder {α : Type*} (le : α → α → Bool) : Prop where
  trans : ∀ a b c, le a b → le b c → le a c
  total : ∀ a b, le a b || le b a

namespace IsWeakOrder

variable {α β : Type*} {le : α → α → Bool}

/-- Puts an element in front of the first that it does not come after. -/
def insert (le : α → α → Bool) (a : α) (l : List α) : List α := l.orderedInsert (fun x y => le x y) a

theorem insert_nil (a : α) : insert le a [] = [a] := rfl

theorem insert_of_le {a b : α} (l : List α) (ab : le a b) : insert le a (b :: l) = a :: b :: l :=
  List.orderedInsert_cons_of_le (fun x y => le x y) l ab

theorem insert_of_not_le {a b : α} (l : List α) (ab : ¬ le a b) :
    insert le a (b :: l) = b :: insert le a l :=
  List.orderedInsert_of_not_le (fun x y => le x y) l ab

theorem insert_behind (a : α) (l₁ l₂ : List α) (before : ∀ b ∈ l₁, !le a b)
    (after : ∀ b ∈ l₂.head?, le a b) : insert le a (l₁ ++ l₂) = l₁ ++ a :: l₂ := by
  induction l₁ with
  | nil =>
    cases l₂ with
    | nil => rfl
    | cons b l₂ =>
      have first : le a b := after b rfl
      exact insert_of_le l₂ first
  | cons c l₁ ih =>
    have notFirst : ¬ le a c := by simpa using before c List.mem_cons_self
    rw [List.cons_append, insert_of_not_le _ notFirst,
      ih fun b member => before b (List.mem_cons_of_mem c member), List.cons_append]

theorem mergeSort_eq_foldr (weak : IsWeakOrder le) (l : List α) :
    l.mergeSort le = l.foldr (insert le) [] := by
  induction l with
  | nil => rw [List.mergeSort_nil, List.foldr_nil]
  | cons a l ih =>
    obtain ⟨l₁, l₂, whole, rest, before⟩ := List.mergeSort_cons weak.trans weak.total a l
    have sorted : (a :: l₂).Pairwise fun x y => le x y := by
      have all := List.pairwise_mergeSort weak.trans weak.total (a :: l)
      rw [whole] at all
      exact (List.pairwise_append.mp all).2.1
    have after : ∀ b ∈ l₂.head?, le a b := by
      intro b first
      exact (List.pairwise_cons.mp sorted).1 b (List.mem_of_mem_head? first)
    rw [List.foldr_cons, ← ih, rest, insert_behind a l₁ l₂ before after, whole]

theorem insert_append (a : α) (xs ys : List α) (before : ∀ b ∈ ys, le a b) :
    insert le a (xs ++ ys) = insert le a xs ++ ys := by
  induction xs with
  | nil =>
    have first : ∀ b ∈ ys.head?, le a b := fun b h => before b (List.mem_of_mem_head? h)
    exact insert_behind a [] ys (by simp) first
  | cons x xs ih =>
    by_cases here : le a x
    · rw [List.cons_append, insert_of_le _ here, insert_of_le _ here, List.cons_append, List.cons_append]
    · rw [List.cons_append, insert_of_not_le _ here, insert_of_not_le _ here, ih, List.cons_append]

theorem foldr_insert_append (xs ys : List α) (before : ∀ a ∈ xs, ∀ b ∈ ys, le a b) :
    xs.foldr (insert le) ys = xs.foldr (insert le) [] ++ ys := by
  induction xs with
  | nil => rfl
  | cons x xs ih =>
    rw [List.foldr_cons, List.foldr_cons, ih fun a h => before a (List.mem_cons_of_mem x h),
      insert_append x _ ys (before x List.mem_cons_self)]

theorem mergeSort_append (weak : IsWeakOrder le) (xs ys : List α)
    (before : ∀ a ∈ xs, ∀ b ∈ ys, le a b) :
    (xs ++ ys).mergeSort le = xs.mergeSort le ++ ys.mergeSort le := by
  have before' : ∀ a ∈ xs, ∀ b ∈ ys.foldr (insert le) [], le a b := by
    intro a ha b hb
    rw [← weak.mergeSort_eq_foldr] at hb
    exact before a ha b (List.mem_mergeSort.mp hb)
  rw [weak.mergeSort_eq_foldr, weak.mergeSort_eq_foldr, weak.mergeSort_eq_foldr, List.foldr_append,
    foldr_insert_append xs _ before']

/-- Blocks that stand in order are sorted one by one. -/
theorem mergeSort_flatMap (weak : IsWeakOrder le) (f : β → List α) (bs : List β)
    (ordered : bs.Pairwise fun b b' => ∀ a ∈ f b, ∀ a' ∈ f b', le a a') :
    (bs.flatMap f).mergeSort le = bs.flatMap fun b => (f b).mergeSort le := by
  induction bs with
  | nil => rw [List.flatMap_nil, List.mergeSort_nil, List.flatMap_nil]
  | cons b bs ih =>
    obtain ⟨first, rest⟩ := List.pairwise_cons.mp ordered
    have before : ∀ a ∈ f b, ∀ a' ∈ bs.flatMap f, le a a' := by
      intro a ha a' ha'
      obtain ⟨b', member, inside⟩ := List.mem_flatMap.mp ha'
      exact first b' member a ha a' inside
    rw [List.flatMap_cons, weak.mergeSort_append _ _ before, ih rest, List.flatMap_cons]

theorem filter_insert_of_neg (keep : α → Bool) {a : α} (dropped : ¬ keep a) (l : List α) :
    (insert le a l).filter keep = l.filter keep := by
  induction l with
  | nil => rw [insert_nil, List.filter_cons_of_neg dropped]
  | cons b l ih =>
    by_cases here : le a b
    · rw [insert_of_le l here, List.filter_cons_of_neg dropped]
    · rw [insert_of_not_le l here, List.filter_cons, List.filter_cons, ih]

theorem filter_insert_of_pos (weak : IsWeakOrder le) (keep : α → Bool) {a : α} (kept : keep a)
    {l : List α} (sorted : l.Pairwise fun x y => le x y) :
    (insert le a l).filter keep = insert le a (l.filter keep) := by
  induction l with
  | nil => rw [insert_nil, List.filter_cons_of_pos kept, List.filter_nil, insert_nil]
  | cons b l ih =>
    obtain ⟨first, rest⟩ := List.pairwise_cons.mp sorted
    by_cases here : le a b
    · -- what is kept of the list comes after `b`, so after `a` too
      have after : ∀ c ∈ ((b :: l).filter keep).head?, le a c := by
        intro c head
        rcases List.mem_cons.mp (List.mem_filter.mp (List.mem_of_mem_head? head)).1 with rfl | inside
        · exact here
        · exact weak.trans a b c here (first c inside)
      rw [insert_of_le l here, List.filter_cons_of_pos kept]
      exact (insert_behind a [] _ (by simp) after).symm
    · rw [insert_of_not_le l here]
      by_cases keptFirst : keep b
      · rw [List.filter_cons_of_pos keptFirst, List.filter_cons_of_pos keptFirst,
          insert_of_not_le _ here, ih rest]
      · rw [List.filter_cons_of_neg keptFirst, List.filter_cons_of_neg keptFirst, ih rest]

/-- What is dropped does not move what is kept. -/
theorem filter_mergeSort (weak : IsWeakOrder le) (keep : α → Bool) (l : List α) :
    (l.mergeSort le).filter keep = (l.filter keep).mergeSort le := by
  rw [weak.mergeSort_eq_foldr, weak.mergeSort_eq_foldr]
  induction l with
  | nil => rfl
  | cons a l ih =>
    have sorted : (l.foldr (insert le) []).Pairwise fun x y => le x y := by
      rw [← weak.mergeSort_eq_foldr]
      exact List.pairwise_mergeSort weak.trans weak.total l
    by_cases kept : keep a
    · rw [List.foldr_cons, weak.filter_insert_of_pos keep kept sorted, ih,
        List.filter_cons_of_pos kept, List.foldr_cons]
    · rw [List.foldr_cons, filter_insert_of_neg keep kept, ih, List.filter_cons_of_neg kept]

/-- Whether one of two elements stands strictly before the other. -/
def Apart (le : α → α → Bool) (a b : α) : Prop := le a b ≠ le b a

theorem insert_insert_of_lt (weak : IsWeakOrder le) {a b : α} (ab : le a b) (ba : ¬ le b a)
    (l : List α) : insert le a (insert le b l) = insert le b (insert le a l) := by
  induction l with
  | nil => rw [insert_nil, insert_nil, insert_of_le _ ab, insert_of_not_le _ ba, insert_nil]
  | cons c l ih =>
    -- `a` comes before `b`, so where `b` stops `a` stops too
    by_cases bc : le b c
    · have ac : le a c := weak.trans a b c ab bc
      rw [insert_of_le l bc, insert_of_le l ac, insert_of_le _ ab, insert_of_not_le _ ba,
        insert_of_le l bc]
    · by_cases ac : le a c
      · rw [insert_of_not_le l bc, insert_of_le l ac, insert_of_le _ ac, insert_of_not_le _ ba,
          insert_of_not_le l bc]
      · rw [insert_of_not_le l bc, insert_of_not_le l ac, insert_of_not_le _ ac,
          insert_of_not_le _ bc, ih]

theorem insert_insert (weak : IsWeakOrder le) {a b : α} (apart : Apart le a b) (l : List α) :
    insert le a (insert le b l) = insert le b (insert le a l) := by
  by_cases ab : le a b
  · have ba : ¬ le b a := fun ba => apart (ab.trans ba.symm)
    exact weak.insert_insert_of_lt ab ba l
  · have ba : le b a := by simpa [ab] using weak.total a b
    exact (weak.insert_insert_of_lt ba ab l).symm

theorem insert_foldr (weak : IsWeakOrder le) (a : α) (ys l : List α)
    (apart : ∀ b ∈ ys, Apart le a b) :
    insert le a (ys.foldr (insert le) l) = ys.foldr (insert le) (insert le a l) := by
  induction ys with
  | nil => rfl
  | cons y ys ih =>
    rw [List.foldr_cons, List.foldr_cons, weak.insert_insert (apart y List.mem_cons_self),
      ih fun b h => apart b (List.mem_cons_of_mem y h)]

theorem foldr_foldr (weak : IsWeakOrder le) (xs ys l : List α)
    (apart : ∀ a ∈ xs, ∀ b ∈ ys, Apart le a b) :
    xs.foldr (insert le) (ys.foldr (insert le) l) = ys.foldr (insert le) (xs.foldr (insert le) l) := by
  induction xs with
  | nil => rfl
  | cons x xs ih =>
    rw [List.foldr_cons, List.foldr_cons, ih fun a h => apart a (List.mem_cons_of_mem x h),
      weak.insert_foldr x ys _ (apart x List.mem_cons_self)]

/-- The order of the blocks is lost when no two of them share a place. -/
theorem mergeSort_flatMap_perm (weak : IsWeakOrder le) (f : β → List α) {bs bs' : List β}
    (same : bs.Perm bs')
    (apart : ∀ b ∈ bs, ∀ b' ∈ bs, b ≠ b' → ∀ a ∈ f b, ∀ a' ∈ f b', Apart le a a') :
    (bs.flatMap f).mergeSort le = (bs'.flatMap f).mergeSort le := by
  have commute : ∀ b ∈ bs, ∀ b' ∈ bs, ∀ l, (f b').foldr (insert le) ((f b).foldr (insert le) l) =
      (f b).foldr (insert le) ((f b').foldr (insert le) l) := by
    intro b hb b' hb' l
    by_cases equal : b = b'
    · rw [equal]
    · exact (weak.foldr_foldr (f b) (f b') l (apart b hb b' hb' equal)).symm
  rw [weak.mergeSort_eq_foldr, weak.mergeSort_eq_foldr, List.foldr_flatMap, List.foldr_flatMap]
  exact same.foldr_eq' commute []

end IsWeakOrder

/-- In a list in strict order, what holds along the list is what holds along the order. -/
theorem pairwise_iff_of_increasing {α : Type*} [Preorder α] {R : α → α → Prop} {l : List α}
    (increasing : l.Pairwise (· < ·)) :
    l.Pairwise R ↔ ∀ a ∈ l, ∀ b ∈ l, a < b → R a b := by
  constructor
  · intro along
    induction l with
    | nil => simp
    | cons c l ih =>
      obtain ⟨first, increasing⟩ := List.pairwise_cons.mp increasing
      obtain ⟨head, along⟩ := List.pairwise_cons.mp along
      intro a ha b hb before
      rcases List.mem_cons.mp ha with rfl | inside
      · rcases List.mem_cons.mp hb with rfl | inside'
        · exact absurd before (lt_irrefl _)
        · exact head b inside'
      · rcases List.mem_cons.mp hb with rfl | inside'
        · exact absurd before (first a inside).not_gt
        · exact ih increasing along a inside b inside' before
  · intro each
    exact increasing.imp_of_mem fun ha hb before => each _ ha _ hb before

end HookLint.Order
