import HookLint.Files.Discovery
import HookLint.Proofs.Files.Lookup
import HookLint.Proofs.Order.Sorting

/-! The source files below a path: each is there once, in the order of the paths, and each is a file
that is found under its path. -/
namespace HookLint.Files

open HookLint.Order

theorem sourcesIn_eq_flatMap (directory : Path) (es : Entries) :
    sourcesIn directory es = es.flatMap fun x => sourcesAt directory x.1 x.2 := by
  induction es with
  | nil => rfl
  | cons x es ih => rw [sourcesIn, ih, List.flatMap_cons]

theorem mem_sourcesIn {directory f : Path} {es : Entries} :
    f ∈ sourcesIn directory es ↔ ∃ x ∈ es, f ∈ sourcesAt directory x.1 x.2 := by
  rw [sourcesIn_eq_flatMap, List.mem_flatMap]

theorem eq_of_mem_sourcesAt_file {directory f : Path} {name : String} {content : ByteArray}
    (member : f ∈ sourcesAt directory name (.file content)) : f = directory.join name := by
  rw [sourcesAt] at member
  split at member
  · exact List.mem_singleton.mp member
  · cases member

theorem mem_sourcesAt_directory {directory f : Path} {name : String} {es : Entries}
    (member : f ∈ sourcesAt directory name (.directory es)) : f ∈ sourcesIn (directory.join name) es := by
  rw [sourcesAt] at member
  split at member
  · cases member
  · exact member

mutual

theorem known_of_mem_sourcesAt {directory f : Path} {name : String} :
    ∀ {e : Entry}, f ∈ sourcesAt directory name e → (Language.ofPath? f).isSome
  | .file _, member => by
    obtain rfl := eq_of_mem_sourcesAt_file member
    rw [sourcesAt] at member
    split at member
    · assumption
    · cases member
  | .directory _, member => known_of_mem_sourcesIn (mem_sourcesAt_directory member)
  | .link _, member => by cases member

/-- What is found below a directory has a name of a known language. -/
theorem known_of_mem_sourcesIn {directory f : Path} :
    ∀ {es : Entries}, f ∈ sourcesIn directory es → (Language.ofPath? f).isSome
  | [], member => by cases member
  | _ :: _, member => by
    rw [sourcesIn] at member
    rcases List.mem_append.mp member with here | below
    · exact known_of_mem_sourcesAt here
    · exact known_of_mem_sourcesIn below

end

theorem components_of_mem_sourcesAt {e : Entry} (wf : e.WellFormed) {directory f : Path} {name : String}
    (spelled : directory.text ≠ "") (ok : IsName name) (member : f ∈ sourcesAt directory name e) :
    ∃ rest, f.components = directory.components ++ .name name.toList :: rest := by
  induction wf generalizing directory name with
  | link target => cases member
  | file content =>
    refine ⟨[], ?_⟩
    rw [eq_of_mem_sourcesAt_file member, Path.components_join spelled ok]
  | directory es named distinct inner ih =>
    obtain ⟨x, inside, found⟩ := mem_sourcesIn.mp (mem_sourcesAt_directory member)
    obtain ⟨rest, below⟩ := ih x inside (Path.text_join_ne spelled ok) (named x inside) found
    refine ⟨.name x.1.toList :: rest, ?_⟩
    rw [below, Path.components_join spelled ok, List.append_assoc, List.singleton_append]

/-- Entries with different names have no source file in common, whichever way it is spelled. -/
theorem components_ne_of_name_ne {e e' : Entry} (wf : e.WellFormed) (wf' : e'.WellFormed)
    {directory f f' : Path} {name name' : String} (spelled : directory.text ≠ "") (ok : IsName name)
    (ok' : IsName name') (other : name ≠ name') (member : f ∈ sourcesAt directory name e)
    (member' : f' ∈ sourcesAt directory name' e') : f.components ≠ f'.components := by
  intro same
  obtain ⟨rest, below⟩ := components_of_mem_sourcesAt wf spelled ok member
  obtain ⟨rest', below'⟩ := components_of_mem_sourcesAt wf' spelled ok' member'
  rw [below, below'] at same
  obtain ⟨first, -⟩ := List.cons.inj (List.append_cancel_left same)
  exact other (String.toList_inj.mp (Component.name.inj first))

theorem sourcesIn_distinct_of_each {directory : Path} {es : Entries} (spelled : directory.text ≠ "")
    (named : ∀ x ∈ es, IsName x.1) (distinct : (es.map Prod.fst).Nodup)
    (inner : ∀ x ∈ es, x.2.WellFormed)
    (each : ∀ x ∈ es, ((sourcesAt directory x.1 x.2).map Path.components).Nodup) :
    ((sourcesIn directory es).map Path.components).Nodup := by
  rw [sourcesIn_eq_flatMap, List.map_flatMap, List.nodup_flatMap]
  refine ⟨each, ?_⟩
  refine (List.pairwise_map.mp distinct).imp_of_mem ?_
  -- a path below both entries would go through both names at the same depth
  intro x y hx hy other cs inx iny
  obtain ⟨f, foundx, rfl⟩ := List.mem_map.mp inx
  obtain ⟨g, foundy, same⟩ := List.mem_map.mp iny
  exact components_ne_of_name_ne (inner x hx) (inner y hy) spelled (named x hx) (named y hy) other
    foundx foundy same.symm

theorem sourcesAt_distinct {e : Entry} (wf : e.WellFormed) {directory : Path} {name : String}
    (spelled : directory.text ≠ "") (ok : IsName name) :
    ((sourcesAt directory name e).map Path.components).Nodup := by
  induction wf generalizing directory name with
  | link target => exact List.nodup_nil
  | file content =>
    rw [sourcesAt]
    split
    · exact List.nodup_singleton _
    · exact List.nodup_nil
  | directory es named distinct inner ih =>
    rw [sourcesAt]
    split
    · exact List.nodup_nil
    · have spelled' : (directory.join name).text ≠ "" := Path.text_join_ne spelled ok
      exact sourcesIn_distinct_of_each spelled' named distinct inner
        fun x inside => ih x inside spelled' (named x inside)

/-- A source file is found under its path. The entry it was found in is one that no link stands for. -/
theorem entry_of_mem_sourcesAt {d : Disk} {e : Entry} (wf : e.WellFormed) {directory f : Path}
    {name : String} (here : (∀ target, e ≠ .link target) → d.entry (directory.join name) = .ok e)
    (member : f ∈ sourcesAt directory name e) : ∃ content, d.entry f = .ok (.file content) := by
  induction wf generalizing directory name with
  | link target => cases member
  | file content =>
    rw [eq_of_mem_sourcesAt_file member]
    exact ⟨content, here fun target h => by cases h⟩
  | directory es named distinct inner ih =>
    -- what is looked for below is in a directory that the path leads to by now
    have listed : d.entry (directory.join name) = .ok (.directory es) := here fun target h => by cases h
    obtain ⟨x, inside, found⟩ := mem_sourcesIn.mp (mem_sourcesAt_directory member)
    have under := Disk.entry_join listed (Entries.find?_of_mem distinct inside) (named x inside)
    exact ih x inside under found

theorem notAfter_weak : IsWeakOrder Path.notAfter where
  trans := by
    intro p q r pq qr
    exact Path.notAfter_iff.mpr ((Path.notAfter_iff.mp pq).trans (Path.notAfter_iff.mp qr))
  total := by
    intro p q
    rw [Bool.or_eq_true, Path.notAfter_iff, Path.notAfter_iff]
    exact le_total p.key q.key

theorem mem_sortPaths {ps : List Path} {p : Path} : p ∈ sortPaths ps ↔ p ∈ ps := List.mem_mergeSort

theorem sortPaths_increasing {ps : List Path} (distinct : (ps.map Path.components).Nodup) :
    (sortPaths ps).Pairwise fun p q => p.key < q.key := by
  have sorted : (sortPaths ps).Pairwise fun p q => p.notAfter q :=
    List.pairwise_mergeSort notAfter_weak.trans notAfter_weak.total ps
  have apart : (sortPaths ps).Pairwise fun p q => p.components ≠ q.components := by
    have same : ((sortPaths ps).map Path.components).Perm (ps.map Path.components) :=
      (List.mergeSort_perm ps Path.notAfter).map _
    exact List.pairwise_map.mp (same.nodup_iff.mpr distinct)
  refine (sorted.and apart).imp ?_
  rintro p q ⟨before, other⟩
  exact lt_of_le_of_ne (Path.notAfter_iff.mp before) fun same => other (Path.key_eq_iff.mp same)

namespace Disk

theorem discover_cases {d : Disk} {p : Path} {files : List Path} (found : d.discover p = .ok files) :
    (∃ es, d.entry p = .ok (.directory es) ∧ files = sortPaths (sourcesIn p es)) ∨ files = [p] := by
  unfold discover at found
  split at found
  · cases found
  · rename_i es listed
    exact Or.inl ⟨es, listed, (Except.ok.inj found).symm⟩
  · exact Or.inr (Except.ok.inj found).symm

theorem discover_file {d : Disk} {f : Path} {content : ByteArray}
    (found : d.entry f = .ok (.file content)) : d.discover f = .ok [f] := by
  rw [discover, found]

theorem discover_directory {d : Disk} {p : Path} {es : Entries} (listed : d.entry p = .ok (.directory es)) :
    d.discover p = .ok (sortPaths (sourcesIn p es)) := by
  rw [discover, listed]

/-- The files of a directory as an insertion sort finds them, which can be run in proofs. -/
theorem discover_of_listed {d : Disk} {p : Path} {es : Entries} {files : List Path}
    (listed : d.entry p = .ok (.directory es))
    (sorted : (sourcesIn p es).foldr (IsWeakOrder.insert Path.notAfter) [] = files) :
    d.discover p = .ok files := by
  rw [discover_directory listed]
  exact congrArg Except.ok ((notAfter_weak.mergeSort_eq_foldr _).trans sorted)

/-- The paths come in order and no two of them are alike. -/
theorem discover_increasing {d : Disk} {p : Path} {files : List Path} (wf : d.WellFormed)
    (found : d.discover p = .ok files) : files.Pairwise fun f g => f.key < g.key := by
  rcases discover_cases found with ⟨es, listed, rfl⟩ | rfl
  · have spelled : p.text ≠ "" := text_ne_of_entry listed
    obtain _ | _ | ⟨_, named, distinct, inner⟩ := wf.entry listed
    exact sortPaths_increasing (sourcesIn_distinct_of_each spelled named distinct inner
      fun x inside => sourcesAt_distinct (inner x inside) spelled (named x inside))
  · exact List.pairwise_singleton _ p

/-- What is found below a path is found again when it is asked for by itself. -/
theorem discover_again {d : Disk} {p f : Path} {files : List Path} (wf : d.WellFormed)
    (found : d.discover p = .ok files) (member : f ∈ files) : d.discover f = .ok [f] := by
  rcases discover_cases found with ⟨es, listed, rfl⟩ | rfl
  · obtain _ | _ | ⟨_, named, distinct, inner⟩ := wf.entry listed
    obtain ⟨x, inside, below⟩ := mem_sourcesIn.mp (mem_sortPaths.mp member)
    have under := entry_join listed (Entries.find?_of_mem distinct inside) (named x inside)
    obtain ⟨content, file⟩ := entry_of_mem_sourcesAt (inner x inside) under below
    exact discover_file file
  · obtain rfl := List.mem_singleton.mp member
    exact found

end Disk

end HookLint.Files
