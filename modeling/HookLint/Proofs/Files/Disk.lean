import HookLint.Files.Disk
import HookLint.Proofs.Files.Path
import Mathlib.Data.List.Nodup

/-! Trees in which every entry of a directory has a name of its own. Putting an entry into such a tree
gives such a tree again. -/
namespace HookLint.Files

open HookLint.Text

/-- In a directory every entry has a name, and no two have the same. -/
inductive Entry.WellFormed : Entry → Prop where
  | file (content : ByteArray) : WellFormed (.file content)
  | link (target : String) : WellFormed (.link target)
  | directory (es : Entries) (named : ∀ x ∈ es, IsName x.1) (distinct : (es.map Prod.fst).Nodup)
      (inner : ∀ x ∈ es, WellFormed x.2) : WellFormed (.directory es)

structure Disk.WellFormed (d : Disk) : Prop where
  root : d.root.WellFormed
  home : ∀ n ∈ d.home, IsName n

namespace Entries

theorem find?_of_mem {es : Entries} {name : String} {e : Entry}
    (distinct : (es.map Prod.fst).Nodup) (member : (name, e) ∈ es) : find? name es = some e := by
  induction es with
  | nil => cases member
  | cons x es ih =>
    rw [List.map_cons, List.nodup_cons] at distinct
    rw [List.mem_cons] at member
    rcases member with here | there
    · rw [← here, find?, if_pos rfl]
    · have other : x.1 ≠ name := by
        intro same
        exact distinct.1 (same ▸ List.mem_map_of_mem there)
      rw [find?, if_neg other]
      exact ih distinct.2 there

theorem mem_of_find? {es : Entries} {name : String} {e : Entry}
    (found : find? name es = some e) : (name, e) ∈ es := by
  induction es with
  | nil => cases found
  | cons x es ih =>
    by_cases here : x.1 = name
    · rw [find?, if_pos here] at found
      obtain rfl := Option.some.inj found
      exact here ▸ List.mem_cons_self
    · rw [find?, if_neg here] at found
      exact List.mem_cons_of_mem x (ih found)

theorem mem_set {es : Entries} {name : String} {e : Entry} {x : String × Entry}
    (member : x ∈ set name e es) : x = (name, e) ∨ x ∈ es := by
  induction es with
  | nil => exact Or.inl (List.mem_singleton.mp member)
  | cons y es ih =>
    by_cases here : y.1 = name
    · rw [set, if_pos here, List.mem_cons] at member
      exact member.imp_right (List.mem_cons_of_mem y)
    · rw [set, if_neg here, List.mem_cons] at member
      rcases member with same | member
      · exact Or.inr (same ▸ List.mem_cons_self)
      · exact (ih member).imp_right (List.mem_cons_of_mem y)

theorem set_distinct {es : Entries} (name : String) (e : Entry) (distinct : (es.map Prod.fst).Nodup) :
    ((set name e es).map Prod.fst).Nodup := by
  induction es with
  | nil => exact List.nodup_singleton name
  | cons y es ih =>
    rw [List.map_cons, List.nodup_cons] at distinct
    by_cases here : y.1 = name
    · rw [set, if_pos here, List.map_cons, List.nodup_cons]
      exact ⟨here ▸ distinct.1, distinct.2⟩
    · rw [set, if_neg here, List.map_cons, List.nodup_cons]
      refine ⟨?_, ih distinct.2⟩
      intro member
      obtain ⟨x, inside, same⟩ := List.mem_map.mp member
      rcases mem_set inside with new | old
      · exact here (same ▸ congrArg Prod.fst new)
      · exact distinct.1 (same ▸ List.mem_map_of_mem old)

end Entries

namespace Entry

theorem at?_append (ns ms : List String) (e : Entry) : at? (ns ++ ms) e = (at? ns e).bind (at? ms) := by
  induction ns generalizing e with
  | nil => rfl
  | cons n ns ih =>
    cases e with
    | directory es =>
      rw [List.cons_append, at?, at?, Option.bind_assoc]
      exact Option.bind_congr fun e _ => ih e
    | file content => rfl
    | link target => rfl

theorem at?_child {root e : Entry} {location : List String} {es : Entries} {name : String}
    (here : root.at? location = some (.directory es)) (found : Entries.find? name es = some e) :
    root.at? (location ++ [name]) = some e := by
  rw [at?_append, here, Option.bind_some, at?, found, Option.bind_some, at?]

theorem WellFormed.at? {e e' : Entry} {ns : List String} (wf : e.WellFormed)
    (found : e.at? ns = some e') : e'.WellFormed := by
  induction ns generalizing e with
  | nil => exact Option.some.inj found ▸ wf
  | cons n ns ih =>
    cases wf with
    | file content => cases found
    | link target => cases found
    | directory es named distinct inner =>
      rw [Entry.at?] at found
      obtain ⟨child, here, rest⟩ := Option.bind_eq_some_iff.mp found
      exact ih (inner (n, child) (Entries.mem_of_find? here)) rest

theorem wellFormed_set {es : Entries} {name : String} {e : Entry} (wf : (Entry.directory es).WellFormed)
    (ok : IsName name) (inside : e.WellFormed) : (Entry.directory (Entries.set name e es)).WellFormed := by
  cases wf with
  | directory _ named distinct inner =>
    refine .directory _ ?_ (Entries.set_distinct name e distinct) ?_
    · intro x member
      rcases Entries.mem_set member with rfl | old
      · exact ok
      · exact named x old
    · intro x member
      rcases Entries.mem_set member with rfl | old
      · exact inside
      · exact inner x old

theorem wellFormed_empty : (Entry.directory []).WellFormed :=
  .directory [] (by simp) List.nodup_nil (by simp)

theorem WellFormed.put {e old : Entry} {ns : List String} (wf : old.WellFormed) (new : e.WellFormed)
    (names : ∀ n ∈ ns, IsName n) : (Entry.put e ns old).WellFormed := by
  induction ns generalizing old with
  | nil =>
    unfold Entry.put
    split
    · exact wf
    · exact new
  | cons n ns ih =>
    cases wf with
    | file content => exact .file content
    | link target => exact .link target
    | directory es named distinct inner =>
      have below : ((Entries.find? n es).getD (Entry.directory [])).WellFormed := by
        cases found : Entries.find? n es with
        | none => exact wellFormed_empty
        | some child => exact inner (n, child) (Entries.mem_of_find? found)
      have rest : ∀ m ∈ ns, IsName m := fun m member => names m (List.mem_cons_of_mem n member)
      exact wellFormed_set (.directory es named distinct inner) (names n List.mem_cons_self)
        (ih below rest)

theorem WellFormed.putDirectories {root : Entry} {below : List (List String)} (wf : root.WellFormed)
    (names : ∀ ns ∈ below, ∀ n ∈ ns, IsName n) :
    (below.foldl (fun r ns => Entry.put (.directory []) ns r) root).WellFormed := by
  induction below generalizing root with
  | nil => exact wf
  | cons ns below ih =>
    exact ih (wf.put wellFormed_empty (names ns List.mem_cons_self))
      fun ms member => names ms (List.mem_cons_of_mem ns member)

end Entry

namespace Disk

theorem wellFormed_empty : empty.WellFormed where
  root := Entry.wellFormed_set Entry.wellFormed_empty (by decide : IsName "work") Entry.wellFormed_empty
  home := by decide

theorem enter_names {directory : List String} {c : Component} (here : ∀ n ∈ directory, IsName n)
    (ok : ∀ n, c = .name n → IsName (String.ofList n)) : ∀ n ∈ enter directory c, IsName n := by
  cases c with
  | root => exact fun n member => absurd member List.not_mem_nil
  | here => exact here
  | up => exact fun n member => here n (List.dropLast_subset directory member)
  | name n =>
    intro m member
    rw [enter, List.mem_append, List.mem_singleton] at member
    rcases member with inside | last
    · exact here m inside
    · exact last ▸ ok n rfl

theorem place_names {directory : List String} {cs : List Component}
    (here : ∀ n ∈ directory, IsName n) (ok : ∀ n, .name n ∈ cs → IsName (String.ofList n)) :
    ∀ n ∈ place directory cs, IsName n := by
  induction cs generalizing directory with
  | nil => exact here
  | cons c cs ih =>
    have first : ∀ n ∈ enter directory c, IsName n :=
      enter_names here fun n same => ok n (same ▸ List.mem_cons_self)
    exact ih first fun n member => ok n (List.mem_cons_of_mem c member)

theorem passed_names {directory : List String} {cs : List Component}
    (here : ∀ n ∈ directory, IsName n) (ok : ∀ n, .name n ∈ cs → IsName (String.ofList n)) :
    ∀ ns ∈ passed directory cs, ∀ n ∈ ns, IsName n := by
  induction cs generalizing directory with
  | nil => exact fun ns member => absurd member List.not_mem_nil
  | cons c cs ih =>
    intro ns member
    rw [passed, List.mem_cons] at member
    rcases member with first | later
    · exact first ▸ here
    · have next : ∀ n ∈ enter directory c, IsName n :=
        enter_names here fun n same => ok n (same ▸ List.mem_cons_self)
      exact ih next (fun n inside => ok n (List.mem_cons_of_mem c inside)) ns later

/-- What is mounted on a disk leaves the names in order, whatever the path is. -/
theorem WellFormed.mount {d : Disk} {p : Path} {e : Entry} (wf : d.WellFormed) (new : e.WellFormed) :
    (d.mount p e).WellFormed := by
  have names : ∀ ns ∈ passed d.home p.components, ∀ n ∈ ns, IsName n :=
    passed_names wf.home fun _ => Path.isName_of_mem_components
  have whole := wf.root.putDirectories names
  exact ⟨whole.put new (place_names wf.home fun _ => Path.isName_of_mem_components), wf.home⟩

end Disk

end HookLint.Files
