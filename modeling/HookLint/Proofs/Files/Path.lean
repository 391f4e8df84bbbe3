import HookLint.Files.Path
import HookLint.Proofs.Text.Encoding

/-! What a path becomes when a name is put behind it, and what the order of paths compares. -/
namespace HookLint.Files

open HookLint.Text

/-- What an entry of a directory may be called. -/
structure IsName (name : String) : Prop where
  notEmpty : name ≠ ""
  notHere : name ≠ "."
  notUp : name ≠ ".."
  noSlash : '/' ∉ name.toList

instance (name : String) : Decidable (IsName name) :=
  decidable_of_iff (name ≠ "" ∧ name ≠ "." ∧ name ≠ ".." ∧ '/' ∉ name.toList)
    ⟨fun h => ⟨h.1, h.2.1, h.2.2.1, h.2.2.2⟩, fun h => ⟨h.1, h.2, h.3, h.4⟩⟩

namespace Path

theorem component?_name {name : String} (ok : IsName name) :
    component? name.toList = some (.name name.toList) := by
  have notEmpty : name.toList ≠ [] := fun h => ok.notEmpty (String.toList_inj.mp h)
  have notHere : name.toList ≠ ['.'] := fun h => ok.notHere (String.toList_inj.mp h)
  have notUp : name.toList ≠ ['.', '.'] := fun h => ok.notUp (String.toList_inj.mp h)
  simp only [component?, notEmpty, notHere, notUp, or_self, if_false]

theorem isName_of_component? {piece n : List Char} (free : '/' ∉ piece)
    (made : component? piece = some (.name n)) : IsName (String.ofList n) := by
  unfold component? at made
  split at made
  · cases made
  rename_i plain
  split at made
  · cases made
  rename_i notUp
  obtain rfl : piece = n := by simpa using made
  obtain ⟨notEmpty, notHere⟩ := not_or.mp plain
  refine ⟨?_, ?_, ?_, ?_⟩
  · exact fun h => notEmpty (String.ofList_inj.mp h)
  · exact fun h => notHere (String.ofList_inj.mp h)
  · exact fun h => notUp (String.ofList_inj.mp h)
  · rw [String.toList_ofList]
    exact free

theorem isName_of_mem_components {p : Path} {n : List Char} (member : .name n ∈ p.components) :
    IsName (String.ofList n) := by
  rw [components, List.mem_append] at member
  rcases member with start | named
  · unfold startOf at start
    split at start
    · simp at start
    · split at start <;> simp at start
  · obtain ⟨piece, inside, made⟩ := List.mem_filterMap.mp named
    exact isName_of_component? (not_mem_of_mem_split inside) made

theorem chars_join_of_slash {p : Path} (name : String) (spelled : p.text ≠ "")
    (slash : p.chars.getLast? = some '/') : (p.join name).chars = p.chars ++ name.toList := by
  rw [join, if_neg spelled, if_pos slash, chars, String.toList_append, ← chars]

theorem chars_join_of_no_slash {p : Path} (name : String) (spelled : p.text ≠ "")
    (slash : p.chars.getLast? ≠ some '/') : (p.join name).chars = p.chars ++ '/' :: name.toList := by
  rw [join, if_neg spelled, if_neg slash, chars, String.toList_append, String.toList_append, ← chars,
    List.append_assoc]
  rfl

/-- A slash at the end of a path leaves an empty piece, which the name takes the place of. -/
theorem segments_join {p : Path} {name : String} (spelled : p.text ≠ "") (ok : IsName name) :
    ∃ front, front ≠ [] ∧ (p.segments = front ∨ p.segments = front ++ [[]]) ∧
      (p.join name).segments = front ++ [name.toList] := by
  have last : split '/' name.toList = [name.toList] := split_of_not_mem ok.noSlash
  by_cases slash : p.chars.getLast? = some '/'
  · obtain ⟨front, ending⟩ := List.getLast?_eq_some_iff.mp slash
    refine ⟨split '/' front, split_ne_nil _ _, Or.inr ?_, ?_⟩
    · rw [segments, ending, split_append, split]
    · rw [segments, chars_join_of_slash name spelled slash, ending, List.append_assoc,
        List.singleton_append, split_append, last]
  · refine ⟨p.segments, split_ne_nil _ _, Or.inl rfl, ?_⟩
    rw [segments, chars_join_of_no_slash name spelled slash, split_append, last, segments]

theorem text_join_ne {p : Path} {name : String} (spelled : p.text ≠ "") (ok : IsName name) :
    (p.join name).text ≠ "" := by
  intro empty
  obtain ⟨front, notEmpty, -, after⟩ := segments_join spelled ok
  have whole : (p.join name).segments = [[]] := by
    rw [segments, chars, empty]
    rfl
  have short : (front ++ [name.toList]).length = 1 := by rw [← after, whole, List.length_singleton]
  have long : 0 < front.length := List.length_pos_of_ne_nil notEmpty
  rw [List.length_append, List.length_singleton] at short
  omega

theorem isRooted_join {p : Path} {name : String} (spelled : p.text ≠ "") :
    (p.join name).isRooted = p.isRooted := by
  have notEmpty : p.chars ≠ [] := fun h => spelled (String.toList_inj.mp h)
  by_cases slash : p.chars.getLast? = some '/'
  · rw [isRooted, chars_join_of_slash name spelled slash, List.head?_append_of_ne_nil _ notEmpty,
      isRooted]
  · rw [isRooted, chars_join_of_no_slash name spelled slash, List.head?_append_of_ne_nil _ notEmpty,
      isRooted]

theorem components_join {p : Path} {name : String} (spelled : p.text ≠ "") (ok : IsName name) :
    (p.join name).components = p.components ++ [.name name.toList] := by
  obtain ⟨front, notEmpty, before, after⟩ := segments_join spelled ok
  have first : p.segments.head? = front.head? := by
    rcases before with before | before
    · rw [before]
    · rw [before, List.head?_append_of_ne_nil _ notEmpty]
  have named : p.segments.filterMap component? = front.filterMap component? := by
    rcases before with before | before
    · rw [before]
    · rw [before, List.filterMap_append]
      exact List.append_nil _
  have start : (p.join name).startOf = p.startOf := by
    rw [startOf, startOf, isRooted_join spelled, after, List.head?_append_of_ne_nil _ notEmpty, first]
  have ending : [name.toList].filterMap component? = [.name name.toList] := by
    rw [List.filterMap_cons_some (component?_name ok), List.filterMap_nil]
  rw [components, components, start, named, after, List.filterMap_append, ending, List.append_assoc]

theorem componentKey_injective : Function.Injective componentKey := by
  intro c c' same
  cases c with
  | root => cases c' <;> first | rfl | cases same
  | here => cases c' <;> first | rfl | cases same
  | up => cases c' <;> first | rfl | cases same
  | name n =>
    cases c' with
    | name n' =>
      have chars : n.map Char.toNat = n'.map Char.toNat := (List.cons.inj same).2
      have toNat : Function.Injective Char.toNat := fun a b h => Char.toNat_inj.mp h
      rw [List.map_injective_iff.mpr toNat chars]
    | root => cases same
    | here => cases same
    | up => cases same

theorem key_eq_iff {p q : Path} : p.key = q.key ↔ p.components = q.components :=
  (List.map_injective_iff.mpr componentKey_injective).eq_iff

/-- Components compare by kind first, then names by their bytes. -/
def componentBytes : Component → List Nat
  | .root => [0]
  | .here => [1]
  | .up => [2]
  | .name n => 3 :: bytesOf n

def byteKey (p : Path) : List (List Nat) := p.components.map componentBytes

theorem componentBytes_lt_iff (c c' : Component) :
    componentBytes c < componentBytes c' ↔ componentKey c < componentKey c' := by
  cases c <;> cases c' <;> simp [componentBytes, componentKey, List.cons_lt_cons_iff, bytesOf_lt_iff]

theorem componentBytes_injective : Function.Injective componentBytes := by
  intro c c' same
  rcases lt_trichotomy (componentKey c) (componentKey c') with before | equal | after
  · exact absurd same ((componentBytes_lt_iff c c').mpr before).ne
  · exact componentKey_injective equal
  · exact absurd same ((componentBytes_lt_iff c' c).mpr after).ne'

theorem map_componentBytes_lt_iff (cs cs' : List Component) :
    cs.map componentBytes < cs'.map componentBytes ↔ cs.map componentKey < cs'.map componentKey := by
  induction cs generalizing cs' with
  | nil => cases cs' <;> simp
  | cons c cs ih =>
    cases cs' with
    | nil => simp
    | cons c' cs' =>
      simp only [List.map_cons, List.cons_lt_cons_iff, ih, componentBytes_lt_iff,
        componentBytes_injective.eq_iff, componentKey_injective.eq_iff]

/-- The order of paths is the order of the bytes of their components, one component after another. -/
theorem byteKey_lt_iff {p q : Path} : p.byteKey < q.byteKey ↔ p.key < q.key :=
  map_componentBytes_lt_iff p.components q.components

-- a directory stands before what only begins with its name
example : (⟨"a/b.js"⟩ : Path).byteKey < (⟨"a-b.js"⟩ : Path).byteKey := by decide

theorem notAfter_iff {p q : Path} : p.notAfter q ↔ p.key ≤ q.key := by
  rw [notAfter, Bool.not_eq_true', decide_eq_false_iff_not, not_lt]

end Path

end HookLint.Files
