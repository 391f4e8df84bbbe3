import HookLint.Proofs.Files.Path
import HookLint.Proofs.Text.Lines

/-! The last component of a path, read off the text: what stands behind a slash, when slashes and lone dots
behind it are passed over. What stands in front of it does not matter. -/
namespace HookLint.Files

open HookLint.Text

/-- Slashes, and dots that stand alone behind a slash. -/
inductive Trailing : List Char → Prop
  | nil : Trailing []
  | slash {cs : List Char} (rest : Trailing cs) : Trailing ('/' :: cs)
  | dot {cs : List Char} (rest : Trailing cs) : Trailing ('/' :: '.' :: cs)

/-- A text that a component can begin behind. -/
def Leading (front : List Char) : Prop := front = [] ∨ front.getLast? = some '/'

namespace Path

/-- The piece stands at the end of a path, with nothing but slashes and lone dots behind it. -/
def EndsIn (p : Path) (piece : List Char) : Prop :=
  ∃ front tail, p.chars = front ++ piece ++ tail ∧ Leading front ∧ Trailing tail

/-- The last component of a path, and it is a name. -/
structure LastName (p : Path) (name : String) : Prop where
  ok : IsName name
  last : p.EndsIn name.toList

/-- Nothing but slashes and lone dots. -/
def Blank (p : Path) : Prop := Trailing ('/' :: p.chars)

theorem component?_cases {piece : List Char} {c : Component} (made : component? piece = some c) :
    piece = ['.', '.'] ∧ c = .up ∨ c = .name piece := by
  unfold component? at made
  split_ifs at made with plain up
  · exact Or.inl ⟨up, (Option.some.inj made).symm⟩
  · exact Or.inr (Option.some.inj made).symm

theorem component?_eq_none_iff {piece : List Char} : component? piece = none ↔ piece = [] ∨ piece = ['.'] := by
  unfold component?
  split_ifs with plain up
  · exact iff_of_true rfl plain
  · exact iff_of_false nofun plain
  · exact iff_of_false nofun plain

end Path

theorem Leading.split {front : List Char} (leading : Leading front) :
    ∃ before, ∀ text, split '/' (front ++ text) = before ++ split '/' text := by
  rcases leading with rfl | slash
  · exact ⟨[], fun text => rfl⟩
  · obtain ⟨above, rfl⟩ := List.getLast?_eq_some_iff.mp slash
    refine ⟨Text.split '/' above, fun text => ?_⟩
    rw [List.append_assoc, List.singleton_append, split_append]

/-- What is trailing adds pieces that are no components. -/
theorem Trailing.split {tail : List Char} (trailing : Trailing tail) :
    ∃ after, (∀ piece ∈ after, Path.component? piece = none) ∧
      ∀ text, split '/' (text ++ tail) = split '/' text ++ after := by
  induction trailing with
  | nil =>
    refine ⟨[], nofun, fun text => ?_⟩
    rw [List.append_nil, List.append_nil]
  | @slash cs rest ih =>
    obtain ⟨after, void, cut⟩ := ih
    have pieces : Text.split '/' cs = [] :: after := cut []
    refine ⟨[] :: after, List.forall_mem_cons.mpr ⟨rfl, void⟩, fun text => ?_⟩
    rw [split_append, pieces]
  | @dot cs rest ih =>
    obtain ⟨after, void, cut⟩ := ih
    have pieces : Text.split '/' ('.' :: cs) = ['.'] :: after := cut ['.']
    refine ⟨['.'] :: after, List.forall_mem_cons.mpr ⟨rfl, void⟩, fun text => ?_⟩
    rw [split_append, pieces]

theorem trailing_flatMap {after : List (List Char)} (void : ∀ piece ∈ after, Path.component? piece = none) :
    Trailing (after.flatMap ('/' :: ·)) := by
  induction after with
  | nil => exact .nil
  | cons piece after ih =>
    obtain ⟨first, others⟩ := List.forall_mem_cons.mp void
    rcases Path.component?_eq_none_iff.mp first with rfl | rfl
    · exact .slash (ih others)
    · exact .dot (ih others)

theorem trailing_iff {text : List Char} :
    Trailing ('/' :: text) ↔ ∀ piece ∈ split '/' text, Path.component? piece = none := by
  constructor
  · intro trailing
    obtain ⟨after, void, cut⟩ := trailing.split
    have pieces : [] :: split '/' text = [[]] ++ after := cut []
    rw [(List.cons.inj pieces).2]
    exact void
  · intro void
    obtain ⟨piece, pieces, cut⟩ := List.exists_cons_of_ne_nil (split_ne_nil '/' text)
    rw [eq_of_split cut]
    rw [cut] at void
    exact trailing_flatMap void

namespace Path

/-- No piece behind this one is a component. -/
def LastPiece (p : Path) (piece : List Char) : Prop :=
  ∃ before after, p.segments = before ++ piece :: after ∧ ∀ other ∈ after, component? other = none

theorem LastPiece.free {p : Path} {piece : List Char} (last : p.LastPiece piece) : '/' ∉ piece := by
  obtain ⟨before, after, cut, -⟩ := last
  exact not_mem_of_mem_split (cut ▸ List.mem_append_cons_self)

theorem endsIn_iff {p : Path} {piece : List Char} (free : '/' ∉ piece) : p.EndsIn piece ↔ p.LastPiece piece := by
  constructor
  · rintro ⟨front, tail, spelled, leading, trailing⟩
    obtain ⟨before, first⟩ := leading.split
    obtain ⟨after, void, cut⟩ := trailing.split
    refine ⟨before, after, ?_, void⟩
    rw [segments, spelled, cut, first, split_of_not_mem free, List.append_assoc]
    rfl
  · rintro ⟨before, after, cut, void⟩
    have trailing := trailing_flatMap void
    cases before with
    | nil => exact ⟨[], _, eq_of_split cut, Or.inl rfl, trailing⟩
    | cons first before =>
      refine ⟨first ++ before.flatMap ('/' :: ·) ++ ['/'], _, ?_, Or.inr List.getLast?_concat, trailing⟩
      rw [List.cons_append] at cut
      rw [eq_of_split cut, List.flatMap_append, List.flatMap_cons]
      simp only [List.append_assoc, List.cons_append, List.nil_append]

/-- The last component behind the start of a path. -/
def lastComponent? (p : Path) : Option Component := (p.segments.filterMap component?).getLast?

theorem lastComponent?_eq_some_iff {p : Path} {c : Component} :
    p.lastComponent? = some c ↔ ∃ piece, p.LastPiece piece ∧ component? piece = some c := by
  rw [lastComponent?, List.getLast?_filterMap, List.findSome?_eq_some_iff]
  constructor
  · rintro ⟨after, piece, before, turned, made, void⟩
    refine ⟨piece, ⟨before.reverse, after.reverse, ?_, ?_⟩, made⟩
    · rw [← List.reverse_reverse p.segments, turned]
      simp
    · intro other member
      exact void other (List.mem_reverse.mp member)
  · rintro ⟨piece, ⟨before, after, cut, void⟩, made⟩
    refine ⟨after.reverse, piece, before.reverse, ?_, made, ?_⟩
    · rw [cut]
      simp
    · intro other member
      exact void other (List.mem_reverse.mp member)

theorem lastComponent?_eq_none_iff {p : Path} : p.lastComponent? = none ↔ p.Blank := by
  rw [lastComponent?, List.getLast?_eq_none_iff, List.filterMap_eq_nil_iff, Blank, trailing_iff, segments]

theorem lastComponent?_eq_up_iff {p : Path} : p.lastComponent? = some .up ↔ p.EndsIn ['.', '.'] := by
  rw [lastComponent?_eq_some_iff, endsIn_iff (by decide)]
  constructor
  · rintro ⟨piece, last, made⟩
    rcases component?_cases made with ⟨rfl, -⟩ | named
    · exact last
    · cases named
  · intro last
    exact ⟨_, last, rfl⟩

theorem lastComponent?_eq_name_iff {p : Path} {name : String} :
    p.lastComponent? = some (.name name.toList) ↔ p.LastName name := by
  rw [lastComponent?_eq_some_iff]
  constructor
  · rintro ⟨piece, last, made⟩
    have ok := isName_of_component? last.free made
    rw [String.ofList_toList] at ok
    rcases component?_cases made with ⟨-, up⟩ | named
    · cases up
    · obtain rfl := Component.name.inj named
      exact ⟨ok, (endsIn_iff last.free).mpr last⟩
  · rintro ⟨ok, last⟩
    exact ⟨name.toList, (endsIn_iff ok.noSlash).mp last, component?_name ok⟩

/-- The start of a path is no name, so the name at the end is that of the last piece. -/
theorem fileName?_eq (p : Path) :
    p.fileName? = p.lastComponent?.bind fun | .name n => some n | _ => none := by
  have start : ∀ c ∈ p.startOf, c = .root ∨ c = .here := by
    unfold startOf
    split_ifs <;> simp
  rw [fileName?, components, List.getLast?_append, lastComponent?]
  cases (p.segments.filterMap component?).getLast? with
  | some c => cases c <;> rfl
  | none =>
    cases first : p.startOf.getLast? with
    | none => rfl
    | some c => rcases start c (List.mem_of_getLast? first) with rfl | rfl <;> rfl

theorem fileName?_of_lastName {p : Path} {name : String} (last : p.LastName name) :
    p.fileName? = some name.toList := by
  rw [fileName?_eq, lastComponent?_eq_name_iff.mpr last, Option.bind_some]

/-- A path has a name at its end, or it is blank or leads up. -/
theorem fileName?_cases (p : Path) :
    (∃ name, p.LastName name) ∨ (p.Blank ∨ p.EndsIn ['.', '.']) ∧ p.fileName? = none := by
  cases last : p.lastComponent? with
  | none =>
    refine Or.inr ⟨Or.inl (lastComponent?_eq_none_iff.mp last), ?_⟩
    rw [fileName?_eq, last, Option.bind_none]
  | some c =>
    obtain ⟨piece, -, made⟩ := lastComponent?_eq_some_iff.mp last
    rcases component?_cases made with ⟨-, rfl⟩ | rfl
    · refine Or.inr ⟨Or.inr (lastComponent?_eq_up_iff.mp last), ?_⟩
      rw [fileName?_eq, last, Option.bind_some]
    · refine Or.inl ⟨String.ofList piece, lastComponent?_eq_name_iff.mp ?_⟩
      rw [last, String.toList_ofList]

theorem nameless_iff {p : Path} : (¬ ∃ name, p.LastName name) ↔ p.Blank ∨ p.EndsIn ['.', '.'] := by
  constructor
  · intro nameless
    exact ((fileName?_cases p).resolve_left nameless).1
  · rintro nameless ⟨name, last⟩
    have named := lastComponent?_eq_name_iff.mpr last
    rcases nameless with blank | up
    · rw [lastComponent?_eq_none_iff.mpr blank] at named
      cases named
    · rw [lastComponent?_eq_up_iff.mpr up] at named
      cases named

theorem fileName?_append (p : Path) {tail : String} (trailing : Trailing tail.toList) :
    fileName? ⟨p.text ++ tail⟩ = p.fileName? := by
  obtain ⟨after, void, cut⟩ := trailing.split
  have pieces : segments ⟨p.text ++ tail⟩ = p.segments ++ after := by
    rw [segments, chars, String.toList_append, cut, segments, chars]
  have same : lastComponent? ⟨p.text ++ tail⟩ = p.lastComponent? := by
    rw [lastComponent?, pieces, List.filterMap_append, List.filterMap_eq_nil_iff.mpr void, List.append_nil,
      lastComponent?]
  rw [fileName?_eq, same, fileName?_eq]

theorem chars_join (directory : Path) (text : String) :
    ∃ front, Leading front ∧ (directory.join text).chars = front ++ text.toList := by
  by_cases spelled : directory.text = ""
  · refine ⟨[], Or.inl rfl, ?_⟩
    rw [join, if_pos spelled, chars, List.nil_append]
  by_cases slash : directory.chars.getLast? = some '/'
  · exact ⟨directory.chars, Or.inr slash, chars_join_of_slash text spelled slash⟩
  · refine ⟨directory.chars ++ ['/'], Or.inr List.getLast?_concat, ?_⟩
    rw [chars_join_of_no_slash text spelled slash, List.append_assoc, List.singleton_append]

/-- A name at the end of a path stays there when a directory is put in front. -/
theorem lastName_join (directory : Path) {p : Path} {name : String} (named : p.LastName name) :
    (directory.join p.text).LastName name := by
  obtain ⟨front, leading, spelled⟩ := chars_join directory p.text
  obtain ⟨before, cut⟩ := leading.split
  have pieces : (directory.join p.text).segments = before ++ p.segments := by
    rw [segments, spelled, cut, segments, chars]
  have last : (p.segments.filterMap component?).getLast? = some (.name name.toList) :=
    lastComponent?_eq_name_iff.mpr named
  refine lastComponent?_eq_name_iff.mp ?_
  rw [lastComponent?, pieces, List.filterMap_append, List.getLast?_append, last, Option.some_or]

theorem reverse_takeWhile_dot {stem ending : List Char} (free : '.' ∉ ending) :
    ((stem ++ '.' :: ending).reverse.takeWhile (· ≠ '.')).reverse = ending := by
  have plain : ∀ c ∈ ending.reverse, decide (c ≠ '.') = true := by
    intro c member
    exact decide_eq_true fun dot => free (dot ▸ List.mem_reverse.mp member)
  rw [List.reverse_append, List.reverse_cons, List.append_assoc, List.takeWhile_append_of_pos plain,
    List.singleton_append, List.takeWhile_cons_of_neg (by decide), List.append_nil, List.reverse_reverse]

theorem exists_last_dot {name : List Char} (dotted : '.' ∈ name) :
    ∃ stem ending, name = stem ++ '.' :: ending ∧ '.' ∉ ending := by
  obtain ⟨turned, stem, cut, free⟩ := List.eq_append_cons_of_mem (List.mem_reverse.mpr dotted)
  refine ⟨stem.reverse, turned.reverse, ?_, fun member => free (List.mem_reverse.mp member)⟩
  rw [← List.reverse_reverse name, cut]
  simp

/-- An extension is what stands behind the last dot, when there is something in front of the dot. -/
theorem extensionOf?_eq_some_iff {name ending : List Char} :
    extensionOf? name = some ending ↔
      ∃ stem, stem ≠ [] ∧ name = stem ++ '.' :: ending ∧ '.' ∉ ending := by
  unfold extensionOf?
  constructor
  · intro made
    by_cases dotted : '.' ∈ name
    · obtain ⟨stem, last, rfl, free⟩ := exists_last_dot dotted
      simp only [reverse_takeWhile_dot free] at made
      split_ifs at made with longer
      obtain rfl := Option.some.inj made
      refine ⟨stem, ?_, rfl, free⟩
      rintro rfl
      rw [List.nil_append, List.length_cons] at longer
      omega
    · -- without a dot, the whole name would have to be shorter than itself
      have all : name.reverse.takeWhile (· ≠ '.') = name.reverse := by
        refine List.takeWhile_eq_self_iff.mpr fun c member => ?_
        exact decide_eq_true fun dot => dotted (dot ▸ List.mem_reverse.mp member)
      simp only [all, List.reverse_reverse] at made
      rw [if_neg (by omega)] at made
      cases made
  · rintro ⟨stem, something, rfl, free⟩
    have longer : ending.length + 1 < (stem ++ '.' :: ending).length := by
      have size := List.length_pos_of_ne_nil something
      rw [List.length_append, List.length_cons]
      omega
    simp only [reverse_takeWhile_dot free, if_pos longer]

end Path

end HookLint.Files
