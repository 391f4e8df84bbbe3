import HookLint.Proofs.Config.Names
import HookLint.Proofs.Json.Members
import HookLint.Proofs.Json.Numbers

/-! What JSON values say as the parts of a configuration: which level a value stands for, and which items are
names of hooks. -/
namespace HookLint

theorem isHookName_iff {name : String} : IsHookName name ↔ isIdentifier name := by
  refine ⟨And.right, fun ok => ⟨?_, ok⟩⟩
  rintro rfl
  exact absurd ok (by decide)

namespace Severity

/-- The words that stand for a level, in small letters. -/
def spellings : Severity → List String
  | error => ["error", "2"]
  | warn => ["warn", "warning", "1"]

theorem spellings_apart : ∀ word ∈ spellings error, word ∉ spellings warn := by decide

theorem toList_toLower (text : String) : text.toLower.toList = text.toList.map Char.toLower := String.toList_map

theorem folded_eq_iff {text word : String} : folded text = word.toList ↔ text.toLower = word := by
  rw [← String.toList_inj, toList_toLower, folded]

theorem parse?_eq (text : String) :
    parse? text = if text.toLower ∈ spellings error then some error
      else if text.toLower ∈ spellings warn then some warn else none := by
  simp only [spellings, List.mem_cons, List.not_mem_nil, or_false, ← folded_eq_iff]
  rfl

theorem parse?_eq_some_iff {text : String} {s : Severity} :
    parse? text = some s ↔ text.toLower ∈ s.spellings := by
  rw [parse?_eq]
  by_cases error : text.toLower ∈ spellings error
  · rw [if_pos error]
    cases s with
    | error => exact iff_of_true rfl error
    | warn => exact iff_of_false nofun (spellings_apart _ error)
  · rw [if_neg error]
    cases s with
    | error => exact iff_of_false (by split <;> nofun) error
    | warn =>
      by_cases warn : text.toLower ∈ spellings .warn
      · exact iff_of_true (if_pos warn) warn
      · rw [if_neg warn]
        exact iff_of_false nofun warn

end Severity

namespace Config

theorem severityOf_eq_ok_iff {text : String} {s : Severity} :
    severityOf text = .ok s ↔ text.toLower ∈ s.spellings := by
  rw [severityOf, ← Severity.parse?_eq_some_iff]
  cases Severity.parse? text <;> simp

theorem severityOf_eq_error_iff {text : String} {f : ConfigFault} :
    severityOf text = .error f ↔ (∀ s : Severity, text.toLower ∉ s.spellings) ∧ f = .unknownSeverity text := by
  simp only [severityOf, ← Severity.parse?_eq_some_iff]
  cases Severity.parse? text <;> simp [eq_comm]

/-- The level that a value stands for: a string by its letters, whatever their case, and a number by the way
it is printed. -/
inductive Denotes : Json.Value → Severity → Prop
  | word {text : String} {s : Severity} (spelled : text.toLower ∈ s.spellings) : Denotes (.string text) s
  | two {n : Json.Number} (printed : String.ofList n.text = "2") : Denotes (.number n) .error
  | one {n : Json.Number} (printed : String.ofList n.text = "1") : Denotes (.number n) .warn

/-- A value as it is quoted when it stands for no level. -/
def severityText : Json.Value → String
  | .string text => text
  | .number n => String.ofList n.text
  | v => Json.compactText v

/-- The first character is one that a number may begin with. -/
def beginsNumber (text : List Char) : Bool := text.head?.any fun c => c == '-' || c.isDigit

theorem toLower_of_digit {c : Char} (first : c = '-' ∨ c.isDigit) : c.toLower = c := by
  unfold Char.toLower
  rw [dif_neg]
  rintro ⟨fromA, -⟩
  rcases first with rfl | digit
  · exact absurd fromA (by decide)
  · have toNine : c.val ≤ '9'.val := (by simpa [Char.isDigit] using digit : _ ∧ _).2
    exact absurd (UInt32.le_trans fromA toNine) (by decide)

/-- No letters make a number, so in capitals or not, only its own digits spell a level. -/
theorem toLower_number {n : Json.Number} {word : String} (lower : (String.ofList n.text).toLower = word) :
    beginsNumber word.toList ∧ (word.length = 1 → String.ofList n.text = word) := by
  obtain ⟨c, cs, whole, first⟩ := n.exists_cons_text
  have letters : word.toList = c :: cs.map Char.toLower := by
    rw [← lower, Severity.toList_toLower, String.toList_ofList, whole, List.map_cons, toLower_of_digit first]
  constructor
  · rw [letters]
    simpa [beginsNumber] using first
  · intro single
    have short : cs = [] := by
      have size := congrArg List.length letters
      rw [String.length_toList, single, List.length_cons, List.length_map] at size
      exact List.length_eq_zero_iff.mp (by omega)
    rw [whole, short, ← String.ofList_toList (s := word), letters, short, List.map_nil]

theorem toLower_number_mem_iff {n : Json.Number} {s : Severity} :
    (String.ofList n.text).toLower ∈ s.spellings ↔ Denotes (.number n) s := by
  have noLetters : ∀ word ∈ ["error", "warn", "warning"], ¬ beginsNumber word.toList := by decide
  constructor
  · intro spelled
    obtain ⟨begins, digit⟩ := toLower_number rfl
    cases s with
    | error =>
      rcases List.mem_pair.mp spelled with letters | two
      · exact absurd begins (letters ▸ noLetters "error" (by decide))
      · exact .two ((digit (two ▸ rfl)).trans two)
    | warn =>
      rw [Severity.spellings, List.mem_cons, List.mem_pair] at spelled
      rcases spelled with letters | letters | one
      · exact absurd begins (letters ▸ noLetters "warn" (by decide))
      · exact absurd begins (letters ▸ noLetters "warning" (by decide))
      · exact .one ((digit (one ▸ rfl)).trans one)
  · intro denoted
    cases denoted with
    | two printed => exact printed ▸ Severity.parse?_eq_some_iff.mp (by decide)
    | one printed => exact printed ▸ Severity.parse?_eq_some_iff.mp (by decide)

theorem denotes_string_iff {text : String} {s : Severity} :
    Denotes (.string text) s ↔ text.toLower ∈ s.spellings :=
  ⟨fun | .word spelled => spelled, .word⟩

theorem severityOfJson_eq_ok_iff {v : Json.Value} {s : Severity} : severityOfJson v = .ok s ↔ Denotes v s := by
  cases v with
  | string text => exact severityOf_eq_ok_iff.trans denotes_string_iff.symm
  | number n => exact severityOf_eq_ok_iff.trans toLower_number_mem_iff
  | null | bool | array | object => exact iff_of_false nofun nofun

theorem severityOfJson_eq_error_iff {v : Json.Value} {f : ConfigFault} :
    severityOfJson v = .error f ↔ (∀ s, ¬ Denotes v s) ∧ f = .unknownSeverity (severityText v) := by
  have faults : ∀ text, severityOf text = .error f ↔
      (∀ s : Severity, text.toLower ∉ s.spellings) ∧ f = .unknownSeverity text := fun text =>
    severityOf_eq_error_iff
  cases v with
  | string text => simp only [severityOfJson, faults, denotes_string_iff, severityText]
  | number n => simp only [severityOfJson, faults, toLower_number_mem_iff, severityText]
  | null | bool | array | object =>
    constructor
    · intro failed
      refine ⟨?_, (Except.error.inj failed).symm⟩
      rintro s ⟨⟩
    · rintro ⟨-, rfl⟩
      rfl

/-- What is wrong with an item as the additional hook of a number. -/
inductive ItemFault (index : Nat) : Json.Value → ConfigFault → Prop
  | notAString {v : Json.Value} (other : ∀ text, v ≠ .string text) :
    ItemFault index v (.nonStringHook index v.kind)
  | empty : ItemFault index (.string "") (.emptyHook index)
  | notAName {name : String} (notEmpty : name ≠ "") (other : ¬ isIdentifier name) :
    ItemFault index (.string name) (.invalidHookName index name)

theorem itemFault_of_other {name : String} (other : ¬ IsHookName name) (index : Nat) :
    ItemFault index (.string name) (nameFault index name) := by
  rw [nameFault]
  split
  · rename_i empty
    exact empty ▸ .empty
  · rename_i notEmpty
    exact .notAName notEmpty (isHookName_iff.not.mp other)

theorem addItems_of_fault {index : Nat} {bad : Json.Value} {f : ConfigFault} (fault : ItemFault index bad f)
    (c : Config) (rest : List Json.Value) : c.addItems index (bad :: rest) = .error f := by
  cases fault with
  | notAString other =>
    cases bad with
    | string text => exact absurd rfl (other text)
    | null | bool | number | array | object => rfl
  | empty => rfl
  | notAName notEmpty other => simp [addItems, hookFault?, notEmpty, other]

/-- Items in front of which there are only names come after these. -/
theorem addItems_append (c : Config) (index : Nat) {good : List String} (ok : ∀ n ∈ good, isIdentifier n)
    (rest : List Json.Value) :
    c.addItems index (good.map .string ++ rest) = (c.addHooks good).addItems (index + good.length) rest := by
  induction good generalizing c index with
  | nil => rfl
  | cons name good ih =>
    have first := hookFault?_of_name (isHookName_iff.mpr (ok name List.mem_cons_self)) index
    simp only [List.map_cons, List.cons_append, addItems, first]
    rw [ih (c.addHook name) (index + 1) fun n member => ok n (List.mem_cons_of_mem name member), List.length_cons,
      Nat.add_comm good.length, ← Nat.add_assoc]
    rfl

theorem item_cases (index : Nat) (v : Json.Value) :
    (∃ name, v = .string name ∧ isIdentifier name) ∨ ∃ f, ItemFault index v f := by
  cases v with
  | string name =>
    by_cases ok : IsHookName name
    · exact Or.inl ⟨name, rfl, ok.2⟩
    · exact Or.inr ⟨_, itemFault_of_other ok index⟩
  | null | bool | number | array | object => exact Or.inr ⟨_, .notAString nofun⟩

/-- Items are all names, or there is a first one that is not. -/
theorem items_cases (index : Nat) (items : List Json.Value) :
    (∃ names : List String, items = names.map .string ∧ ∀ n ∈ names, isIdentifier n) ∨
      ∃ (good : List String) (bad : Json.Value) (rest : List Json.Value) (f : ConfigFault),
        items = good.map .string ++ bad :: rest ∧ (∀ n ∈ good, isIdentifier n) ∧
        ItemFault (index + good.length) bad f := by
  induction items generalizing index with
  | nil => exact Or.inl ⟨[], rfl, List.forall_mem_nil _⟩
  | cons v items ih =>
    rcases item_cases index v with ⟨name, rfl, ok⟩ | ⟨f, fault⟩
    · rcases ih (index + 1) with ⟨names, rfl, oks⟩ | ⟨good, bad, rest, f, rfl, oks, fault⟩
      · exact Or.inl ⟨name :: names, rfl, List.forall_mem_cons.mpr ⟨ok, oks⟩⟩
      · refine Or.inr ⟨name :: good, bad, rest, f, rfl, List.forall_mem_cons.mpr ⟨ok, oks⟩, ?_⟩
        rw [List.length_cons, Nat.add_comm good.length, ← Nat.add_assoc]
        exact fault
    · exact Or.inr ⟨[], v, items, f, rfl, List.forall_mem_nil _, fault⟩

theorem addItems_of_names (c : Config) (index : Nat) {names : List String} (ok : ∀ n ∈ names, isIdentifier n) :
    c.addItems index (names.map .string) = .ok (c.addHooks names) := by
  have all := addItems_append c index ok []
  rw [List.append_nil] at all
  exact all

theorem addItems_of_bad (c : Config) {index : Nat} {good : List String} {bad : Json.Value} {f : ConfigFault}
    (ok : ∀ n ∈ good, isIdentifier n) (fault : ItemFault (index + good.length) bad f) (rest : List Json.Value) :
    c.addItems index (good.map .string ++ bad :: rest) = .error f := by
  rw [addItems_append c index ok, addItems_of_fault fault]

theorem addItems_eq_ok_iff {c c' : Config} {index : Nat} {items : List Json.Value} :
    c.addItems index items = .ok c' ↔
      ∃ names : List String,
        items = names.map .string ∧ (∀ n ∈ names, isIdentifier n) ∧ c' = c.addHooks names := by
  constructor
  · intro added
    rcases items_cases index items with ⟨names, rfl, ok⟩ | ⟨good, bad, rest, f, rfl, ok, fault⟩
    · rw [addItems_of_names c index ok] at added
      exact ⟨names, rfl, ok, (Except.ok.inj added).symm⟩
    · rw [addItems_of_bad c ok fault] at added
      cases added
  · rintro ⟨names, rfl, ok, rfl⟩
    exact addItems_of_names c index ok

theorem addItems_eq_error_iff {c : Config} {index : Nat} {items : List Json.Value} {f : ConfigFault} :
    c.addItems index items = .error f ↔
      ∃ (good : List String) (bad : Json.Value) (rest : List Json.Value),
        items = good.map .string ++ bad :: rest ∧ (∀ n ∈ good, isIdentifier n) ∧
          ItemFault (index + good.length) bad f := by
  constructor
  · intro failed
    rcases items_cases index items with ⟨names, rfl, ok⟩ | ⟨good, bad, rest, g, rfl, ok, fault⟩
    · rw [addItems_of_names c index ok] at failed
      cases failed
    · rw [addItems_of_bad c ok fault] at failed
      cases failed
      exact ⟨good, bad, rest, rfl, ok, fault⟩
  · rintro ⟨good, bad, rest, rfl, ok, fault⟩
    exact addItems_of_bad c ok fault rest

end Config

end HookLint
