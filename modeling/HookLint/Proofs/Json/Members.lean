import HookLint.Json.Reader
import HookLint.Proofs.Results
import HookLint.Proofs.Text.Encoding

/-! The members of objects. An object that was read has its members in the order of the bytes of their keys,
each key once: every member is put in its place, and nothing else is ever done to them. -/
namespace HookLint

namespace Text

theorem map_toNat_lt_iff {cs ds : List Char} : cs.map Char.toNat < ds.map Char.toNat ↔ cs < ds := by
  induction cs generalizing ds with
  | nil => cases ds <;> simp
  | cons c cs ih =>
    cases ds with
    | nil => simp
    | cons d ds =>
      have first : c.toNat < d.toNat ↔ c < d := Iff.rfl
      simp only [List.map_cons, List.cons_lt_cons_iff, ih, first, Char.toNat_inj]

/-- The order of texts is the order of their bytes. -/
theorem bytesOf_toList_lt_iff {s t : String} : bytesOf s.toList < bytesOf t.toList ↔ s < t :=
  bytesOf_lt_iff.trans map_toNat_lt_iff

theorem bytesOf_injective : Function.Injective bytesOf := by
  intro cs ds same
  rcases lt_trichotomy (cs.map Char.toNat) (ds.map Char.toNat) with before | equal | after
  · exact absurd same (bytesOf_lt before).ne
  · have toNat : Function.Injective Char.toNat := fun a b h => Char.toNat_inj.mp h
    exact List.map_injective_iff.mpr toNat equal
  · exact absurd same (bytesOf_lt after).ne'

end Text

namespace Json

open HookLint.Text

/-- The bytes of a key, which say where its member stands. -/
def keyBytes (key : String) : List Nat := bytesOf key.toList

theorem keyBytes_lt_iff {key key' : String} : keyBytes key < keyBytes key' ↔ key < key' :=
  bytesOf_toList_lt_iff

theorem keyBytes_injective : Function.Injective keyBytes := fun _ _ same =>
  String.toList_inj.mp (bytesOf_injective same)

def Increasing (ms : Members) : Prop := ms.Pairwise fun a b => keyBytes a.1 < keyBytes b.1

theorem Increasing.nodup {ms : Members} (increasing : Increasing ms) : (ms.map Prod.fst).Nodup := by
  refine List.pairwise_map.mpr (increasing.imp ?_)
  intro a b before same
  exact before.ne (congrArg keyBytes same)

theorem mem_of_mem_insert {key : String} {v : Value} {ms : Members} {m : String × Value}
    (member : m ∈ insert key v ms) : m = (key, v) ∨ m ∈ ms := by
  induction ms with
  | nil => exact Or.inl (List.mem_singleton.mp member)
  | cons first ms ih =>
    obtain ⟨k, w⟩ := first
    rw [insert] at member
    split at member
    · exact List.mem_cons.mp member
    · split at member
      · exact (List.mem_cons.mp member).imp_right (List.mem_cons_of_mem _)
      · rcases List.mem_cons.mp member with rfl | later
        · exact Or.inr List.mem_cons_self
        · exact (ih later).imp_right (List.mem_cons_of_mem _)

theorem Increasing.insert {ms : Members} (increasing : Increasing ms) (key : String) (v : Value) :
    Increasing (insert key v ms) := by
  induction ms with
  | nil => exact List.pairwise_singleton _ _
  | cons first ms ih =>
    obtain ⟨k, w⟩ := first
    obtain ⟨behind, rest⟩ := List.pairwise_cons.mp increasing
    rw [Json.insert]
    split
    · rename_i before
      have least : keyBytes key < keyBytes k := keyBytes_lt_iff.mpr before
      refine List.pairwise_cons.mpr ⟨?_, increasing⟩
      intro m member
      rcases List.mem_cons.mp member with rfl | later
      · exact least
      · exact least.trans (behind m later)
    · rename_i notBefore
      split
      · rename_i same
        subst same
        exact List.pairwise_cons.mpr ⟨behind, rest⟩
      · rename_i other
        have after : keyBytes k < keyBytes key := by
          have notLess : ¬ keyBytes key < keyBytes k := keyBytes_lt_iff.not.mpr notBefore
          exact lt_of_le_of_ne (not_lt.mp notLess) fun same => other (keyBytes_injective same).symm
        refine List.pairwise_cons.mpr ⟨?_, ih rest⟩
        intro m member
        rcases mem_of_mem_insert member with rfl | later
        · exact after
        · exact behind m later

/-- A value in which every object has its members in order. -/
inductive Value.Ordered : Value → Prop
  | null : Ordered .null
  | bool (b : Bool) : Ordered (.bool b)
  | number (n : Number) : Ordered (.number n)
  | string (s : String) : Ordered (.string s)
  | array {items : List Value} (inner : ∀ v ∈ items, v.Ordered) : Ordered (.array items)
  | object {members : Members} (increasing : Increasing members) (inner : ∀ m ∈ members, m.2.Ordered) :
    Ordered (.object members)

theorem Value.Ordered.insert {members : Members} {v : Value} (object : (Value.object members).Ordered)
    (ordered : v.Ordered) (key : String) : (Value.object (Json.insert key v members)).Ordered := by
  cases object with
  | object increasing inner =>
    refine .object (increasing.insert key v) ?_
    intro m member
    rcases mem_of_mem_insert member with rfl | old
    · exact ordered
    · exact inner m old

theorem Value.Ordered.cons {items : List Value} {v : Value} (array : (Value.array items).Ordered)
    (ordered : v.Ordered) : (Value.array (v :: items)).Ordered := by
  cases array with
  | array inner => exact .array (List.forall_mem_cons.mpr ⟨ordered, inner⟩)

theorem Value.Ordered.reverse {items : List Value} (array : (Value.array items).Ordered) :
    (Value.array items.reverse).Ordered := by
  cases array with
  | array inner => exact .array fun v member => inner v (List.mem_reverse.mp member)

theorem failHere_ne_ok {α : Type} {k : Cursor} {f : Fault} {a : α} : failHere k f ≠ .ok a := nofun

theorem failNext_ne_ok {α : Type} {k : Cursor} {f : Fault} {a : α} : failNext k f ≠ .ok a := nofun

/-- What is read in some rounds is ordered, if what was read before is. -/
structure ReadsOrdered (fuel : Nat) : Prop where
  value : ∀ {depth k v k'}, readValue fuel depth k = .ok (v, k') → v.Ordered
  items : ∀ {depth done k v k'}, (Value.array done).Ordered → readItems fuel depth done k = .ok (v, k') →
    v.Ordered
  members : ∀ {depth first done k v k'}, (Value.object done).Ordered →
    readMembers fuel depth first done k = .ok (v, k') → v.Ordered
  member : ∀ {depth done k v k'}, (Value.object done).Ordered →
    readMember fuel depth done k = .ok (v, k') → v.Ordered

namespace ReadsOrdered

variable {fuel : Nat} {depth : Nat} {k k' : Cursor} {v : Value}

theorem zero : ReadsOrdered 0 where
  value read := absurd read (by rw [readValue]; exact failHere_ne_ok)
  items _ read := absurd read (by rw [readItems]; exact failHere_ne_ok)
  members _ read := absurd read (by rw [readMembers]; exact failHere_ne_ok)
  member _ read := absurd read (by rw [readMember]; exact failHere_ne_ok)

theorem succ_value (ih : ReadsOrdered fuel) (read : readValue (fuel + 1) depth k = .ok (v, k')) :
    v.Ordered := by
  rw [readValue] at read
  dsimp only at read
  split at read
  · exact absurd read failHere_ne_ok
  · obtain ⟨_, -, same⟩ := bind_eq_ok_iff.mp read
    cases same
    exact .null
  · obtain ⟨_, -, same⟩ := bind_eq_ok_iff.mp read
    cases same
    exact .bool true
  · obtain ⟨_, -, same⟩ := bind_eq_ok_iff.mp read
    cases same
    exact .bool false
  · obtain ⟨_, -, same⟩ := bind_eq_ok_iff.mp read
    cases same
    exact .string _
  · obtain ⟨_, -, same⟩ := bind_eq_ok_iff.mp read
    cases same
    exact .number _
  · split at read
    · exact absurd read failNext_ne_ok
    · exact ih.items (.array (List.forall_mem_nil _)) read
  · split at read
    · exact absurd read failNext_ne_ok
    · exact ih.members (.object .nil (List.forall_mem_nil _)) read
  · split at read
    · obtain ⟨_, -, same⟩ := bind_eq_ok_iff.mp read
      cases same
      exact .number _
    · exact absurd read failNext_ne_ok

theorem succ_items (ih : ReadsOrdered fuel) {done : List Value} (ordered : (Value.array done).Ordered)
    (read : readItems (fuel + 1) depth done k = .ok (v, k')) : v.Ordered := by
  rw [readItems] at read
  dsimp only at read
  split at read
  · exact absurd read failHere_ne_ok
  · cases read
    exact ordered.reverse
  · split at read
    · obtain ⟨_, item, rest⟩ := bind_eq_ok_iff.mp read
      exact ih.items (ordered.cons (ih.value item)) rest
    · split at read
      · split at read
        · exact absurd read failHere_ne_ok
        · exact absurd read failNext_ne_ok
        · obtain ⟨_, item, rest⟩ := bind_eq_ok_iff.mp read
          exact ih.items (ordered.cons (ih.value item)) rest
      · exact absurd read failNext_ne_ok

theorem succ_members (ih : ReadsOrdered fuel) {first : Bool} {done : Members}
    (ordered : (Value.object done).Ordered)
    (read : readMembers (fuel + 1) depth first done k = .ok (v, k')) : v.Ordered := by
  rw [readMembers] at read
  dsimp only at read
  split at read
  · exact absurd read failHere_ne_ok
  · cases read
    exact ordered
  · split at read
    · split at read
      · exact ih.member ordered read
      · exact absurd read failNext_ne_ok
    · split at read
      · split at read
        · exact absurd read failHere_ne_ok
        · exact ih.member ordered read
        · exact absurd read failNext_ne_ok
        · exact absurd read failNext_ne_ok
      · exact absurd read failNext_ne_ok

theorem succ_member (ih : ReadsOrdered fuel) {done : Members} (ordered : (Value.object done).Ordered)
    (read : readMember (fuel + 1) depth done k = .ok (v, k')) : v.Ordered := by
  rw [readMember] at read
  obtain ⟨⟨key, _⟩, -, read⟩ := bind_eq_ok_iff.mp read
  dsimp only at read
  split at read
  · exact absurd read failHere_ne_ok
  · obtain ⟨_, value, rest⟩ := bind_eq_ok_iff.mp read
    exact ih.members (ordered.insert (ih.value value) key) rest
  · exact absurd read failNext_ne_ok

end ReadsOrdered

theorem readsOrdered (fuel : Nat) : ReadsOrdered fuel := by
  induction fuel with
  | zero => exact .zero
  | succ fuel ih => exact ⟨ih.succ_value, ih.succ_items, ih.succ_members, ih.succ_member⟩

/-- Objects that were read have their members in order, at any depth. -/
theorem ordered_of_read {text : String} {v : Value} (done : read text = .ok v) : v.Ordered := by
  obtain ⟨⟨w, k⟩, value, rest⟩ := bind_eq_ok_iff.mp done
  dsimp only at rest
  split at rest
  · cases rest
    exact (readsOrdered _).value value
  · exact absurd rest failNext_ne_ok

end Json

end HookLint
