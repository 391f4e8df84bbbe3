import HookLint.Tree.Walk
import Mathlib.Data.List.Basic

/-! The order in which a tree lists its nodes. A node is known by its address, the child numbers on
the way down to it; equal nodes may stand at several addresses. The preorder has one entry for each
address, and the addresses of the entries grow. -/
namespace HookLint.Tree

/-- Child numbers, from the root down. -/
abbrev Address := List Nat

namespace Node

@[simp] theorem info_mk (i : NodeInfo) (cs : List Node) : (mk i cs).info = i := rfl
@[simp] theorem children_mk (i : NodeInfo) (cs : List Node) : (mk i cs).children = cs := rfl
@[simp] theorem kind_mk (i : NodeInfo) (cs : List Node) : (mk i cs).kind = i.kind := rfl
@[simp] theorem span_mk (i : NodeInfo) (cs : List Node) : (mk i cs).span = i.span := rfl

/-- A property that passes from the children of each node to the node holds of all trees. -/
@[elab_as_elim]
theorem inductionOnChildren {P : Node → Prop}
    (step : ∀ i cs, (∀ c ∈ cs, P c) → P (mk i cs)) (n : Node) : P n := by
  refine Node.rec (motive_1 := P) (motive_2 := fun cs => ∀ c ∈ cs, P c) step ?_ ?_ n
  · intro c hc
    cases hc
  · intro c cs hc hcs d hd
    rcases List.mem_cons.mp hd with rfl | hd
    · exact hc
    · exact hcs d hd

def at? : Node → Address → Option Node
  | n, [] => some n
  | n, i :: is => n.children[i]?.bind fun c => c.at? is

mutual

/-- The addresses of all nodes, a parent before its children. -/
def addresses : Node → List Address
  | mk _ cs => [] :: addressesFrom 0 cs

/-- The addresses in a row of siblings, the first being number `k`. -/
def addressesFrom (k : Nat) : List Node → List Address
  | [] => []
  | c :: cs => c.addresses.map (k :: ·) ++ addressesFrom (k + 1) cs

end

theorem preorderAll_eq_flatMap (cs : List Node) : preorderAll cs = cs.flatMap preorder := by
  induction cs with
  | nil => rfl
  | cons c cs ih => simp [preorderAll, ih]

theorem self_mem_preorder (n : Node) : n ∈ n.preorder := by
  cases n
  simp [preorder]

theorem mem_preorder_of_child {n c m : Node} (child : c ∈ n.children) (below : m ∈ c.preorder) :
    m ∈ n.preorder := by
  cases n with
  | mk i cs =>
    simp only [preorder, preorderAll_eq_flatMap, List.mem_cons, List.mem_flatMap]
    exact Or.inr ⟨c, child, below⟩

theorem preorder_trans {n m k : Node} (below : m ∈ n.preorder) (deeper : k ∈ m.preorder) :
    k ∈ n.preorder := by
  induction n using inductionOnChildren with
  | step i cs ih =>
    simp only [preorder, preorderAll_eq_flatMap, List.mem_cons, List.mem_flatMap] at below
    rcases below with rfl | ⟨c, child, below⟩
    · exact deeper
    · exact mem_preorder_of_child child (ih c child below)

theorem child_of_field {n c : Node} {name : String} (found : n.childByField name = some c) :
    c ∈ n.children :=
  List.mem_of_find?_eq_some found

theorem addressesFrom_all_children (k : Nat) (cs : List Node) (a : Address)
    (member : a ∈ addressesFrom k cs) : ∃ i b, a = i :: b ∧ k ≤ i := by
  induction cs generalizing k with
  | nil => cases member
  | cons c cs ih =>
    simp only [addressesFrom, List.mem_append, List.mem_map] at member
    rcases member with ⟨b, _, rfl⟩ | member
    · exact ⟨k, b, rfl, Nat.le_refl k⟩
    · obtain ⟨i, b, rfl, hi⟩ := ih (k + 1) member
      exact ⟨i, b, rfl, by omega⟩

theorem map_cons_increasing (k : Nat) {as : List Address} (increasing : as.Pairwise (· < ·)) :
    (as.map (k :: ·)).Pairwise (· < ·) := by
  rw [List.pairwise_map]
  exact increasing.imp fun h => List.cons_lt_cons_iff.mpr (Or.inr ⟨rfl, h⟩)

theorem addressesFrom_increasing (k : Nat) (cs : List Node)
    (each : ∀ c ∈ cs, c.addresses.Pairwise (· < ·)) :
    (addressesFrom k cs).Pairwise (· < ·) := by
  induction cs generalizing k with
  | nil => exact .nil
  | cons c cs ih =>
    rw [addressesFrom, List.pairwise_append]
    refine ⟨map_cons_increasing k (each c (by simp)),
      ih (k + 1) fun d hd => each d (by simp [hd]), ?_⟩
    intro a ha b hb
    obtain ⟨a, _, rfl⟩ := List.mem_map.mp ha
    obtain ⟨i, b, rfl, hi⟩ := addressesFrom_all_children (k + 1) cs b hb
    exact List.cons_lt_cons_iff.mpr (Or.inl hi)

/-- Each address is listed once, and in the order of the text. -/
theorem addresses_increasing (n : Node) : n.addresses.Pairwise (· < ·) := by
  induction n using inductionOnChildren with
  | step i cs ih =>
    rw [addresses, List.pairwise_cons]
    refine ⟨?_, addressesFrom_increasing 0 cs ih⟩
    intro a ha
    obtain ⟨i, b, rfl, _⟩ := addressesFrom_all_children 0 cs a ha
    exact List.nil_lt_cons i b

theorem cons_mem_addressesFrom (k i : Nat) (a : Address) (cs : List Node) :
    (k + i) :: a ∈ addressesFrom k cs ↔ ∃ c, cs[i]? = some c ∧ a ∈ c.addresses := by
  induction cs generalizing k i with
  | nil => simp [addressesFrom]
  | cons c cs ih =>
    rw [addressesFrom, List.mem_append]
    cases i with
    | zero =>
      have later : k :: a ∉ addressesFrom (k + 1) cs := by
        intro h
        obtain ⟨i, b, same, hi⟩ := addressesFrom_all_children (k + 1) cs _ h
        have hk := (List.cons.inj same).1
        omega
      simp [later]
    | succ i =>
      have number : k + (i + 1) = k + 1 + i := by omega
      have first : (k + (i + 1)) :: a ∉ c.addresses.map (k :: ·) := by
        intro h
        obtain ⟨b, _, same⟩ := List.mem_map.mp h
        have hk := (List.cons.inj same).1
        omega
      rw [or_iff_right first, number, ih (k + 1) i]
      rfl

/-- Every node of the tree has its address in the list, and nothing else is there. -/
theorem mem_addresses_iff (n : Node) (a : Address) : a ∈ n.addresses ↔ (n.at? a).isSome := by
  induction a generalizing n with
  | nil =>
    cases n
    simp [addresses, at?]
  | cons i a ih =>
    cases n with
    | mk j cs =>
      have below := cons_mem_addressesFrom 0 i a cs
      rw [Nat.zero_add] at below
      simp only [addresses, List.mem_cons, reduceCtorEq, false_or, below, at?, children]
      cases cs[i]? with
      | none => simp
      | some c => simp [ih c]

theorem map_at?_addressesFrom (n : Node) (k : Nat) (cs : List Node)
    (place : ∀ i, n.children[k + i]? = cs[i]?)
    (each : ∀ c ∈ cs, c.addresses.map c.at? = c.preorder.map some) :
    (addressesFrom k cs).map n.at? = (preorderAll cs).map some := by
  induction cs generalizing k with
  | nil => rfl
  | cons c cs ih =>
    have here : n.children[k]? = some c := place 0
    have below : n.at? ∘ (k :: ·) = c.at? := by
      funext a
      simp [at?, here]
    have rest := ih (k + 1) (fun i => by rw [Nat.add_right_comm]; exact place (i + 1))
      (fun d hd => each d (by simp [hd]))
    rw [addressesFrom, preorderAll, List.map_append, List.map_append, List.map_map, below,
      each c (by simp), rest]

theorem map_at?_addresses (n : Node) : n.addresses.map n.at? = n.preorder.map some := by
  induction n using inductionOnChildren with
  | step i cs ih =>
    have below := map_at?_addressesFrom (mk i cs) 0 cs (fun j => by rw [Nat.zero_add]; rfl) ih
    simp [addresses, preorder, at?, below]

end Node

end HookLint.Tree
