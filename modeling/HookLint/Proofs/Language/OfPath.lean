import HookLint.Language.OfPath
import HookLint.Proofs.Files.LastName

/-! The language of a path is told by the name at its end, and the name tells it by what stands behind its last
dot. -/
namespace HookLint.Language

open HookLint.Files

/-- What stands behind the last dot of a name. -/
def endings : Language → List String
  | javaScript => ["js", "jsx", "mjs", "cjs"]
  | typeScript => ["ts", "mts", "cts"]
  | tsx => ["tsx"]

def declarationEndings : List String := [".d.ts", ".d.mts", ".d.cts"]

/-- A name of a file in a language. With the endings of TypeScript, a file of declarations has none. -/
structure Names (l : Language) (name : String) : Prop where
  spelled : ∃ stem ending, stem ≠ "" ∧ ending ∈ l.endings ∧ name = stem ++ "." ++ ending
  notDeclaration : l = typeScript → ∀ ending ∈ declarationEndings, ¬ ending.toList <:+ name.toList

theorem not_dot_of_mem_endings {l : Language} {ending : String} (member : ending ∈ l.endings) :
    '.' ∉ ending.toList := by
  have free : ∀ e ∈ l.endings, '.' ∉ e.toList := by cases l <;> decide
  exact free ending member

theorem isDeclaration_iff {name : List Char} :
    isDeclaration name ↔ ∃ ending ∈ declarationEndings, ending.toList <:+ name := by
  simp only [isDeclaration, endsWith, Bool.or_eq_true, List.isSuffixOf_iff_suffix, declarationEndings,
    List.mem_cons, List.not_mem_nil, or_false, or_assoc, exists_eq_or_imp, exists_eq_left]

theorem ofName?_of_extension {name : List Char} {ending : String} {l : Language}
    (behind : Path.extensionOf? name = some ending.toList) :
    ofName? name = some l ↔ ending ∈ l.endings ∧ (l = typeScript → ¬ isDeclaration name) := by
  unfold ofName?
  rw [behind, Option.map_some, String.ofList_toList]
  -- a case for each ending that is known, and one for all others
  split <;> rename_i known <;> cases l <;> simp_all [endings]

theorem ofName?_eq_some_iff {name : String} {l : Language} : ofName? name.toList = some l ↔ l.Names name := by
  constructor
  · intro known
    cases behind : Path.extensionOf? name.toList with
    | none =>
      rw [ofName?, behind] at known
      cases known
    | some last =>
      rw [← String.toList_ofList (l := last)] at behind
      obtain ⟨member, notDeclaration⟩ := (ofName?_of_extension behind).mp known
      obtain ⟨stem, something, whole, -⟩ := Path.extensionOf?_eq_some_iff.mp behind
      refine ⟨⟨String.ofList stem, String.ofList last, ?_, member, ?_⟩, ?_⟩
      · exact fun nothing => something (String.ofList_inj.mp nothing)
      · rw [← String.toList_inj, whole]
        simp
      · intro typeScript ending declares suffix
        exact notDeclaration typeScript (isDeclaration_iff.mpr ⟨ending, declares, suffix⟩)
  · rintro ⟨⟨stem, ending, something, member, rfl⟩, notDeclaration⟩
    have behind : Path.extensionOf? (stem ++ "." ++ ending).toList = some ending.toList := by
      refine Path.extensionOf?_eq_some_iff.mpr ⟨stem.toList, ?_, ?_, not_dot_of_mem_endings member⟩
      · exact fun nothing => something (String.toList_inj.mp nothing)
      · simp
    refine (ofName?_of_extension behind).mpr ⟨member, fun typeScript declares => ?_⟩
    obtain ⟨d, inside, suffix⟩ := isDeclaration_iff.mp declares
    exact notDeclaration typeScript d inside suffix

theorem ofPath?_of_last {p : Path} {name : String} {l : Language} (last : p.LastName name) :
    ofPath? p = some l ↔ l.Names name := by
  rw [ofPath?, Path.fileName?_of_lastName last, Option.bind_some, ofName?_eq_some_iff]

theorem ofPath?_of_nameless {p : Path} (nameless : ¬ ∃ name, p.LastName name) : ofPath? p = none := by
  obtain ⟨-, none⟩ := p.fileName?_cases.resolve_left nameless
  rw [ofPath?, none, Option.bind_none]

theorem exists_names_of_ofPath? {p : Path} {l : Language} (known : ofPath? p = some l) :
    ∃ name, p.LastName name ∧ l.Names name := by
  rcases p.fileName?_cases with ⟨name, last⟩ | ⟨-, none⟩
  · exact ⟨name, last, (ofPath?_of_last last).mp known⟩
  · rw [ofPath?, none] at known
    cases known

theorem ofPath?_append (p : Path) {tail : String} (trailing : Trailing tail.toList) :
    ofPath? ⟨p.text ++ tail⟩ = ofPath? p := by
  rw [ofPath?, Path.fileName?_append p trailing, ofPath?]

theorem ofPath?_join (directory : Path) {p : Path} {name : String} (last : p.LastName name) :
    ofPath? (directory.join p.text) = ofPath? p := by
  rw [ofPath?, Path.fileName?_of_lastName (Path.lastName_join directory last), ofPath?,
    Path.fileName?_of_lastName last]

end HookLint.Language
