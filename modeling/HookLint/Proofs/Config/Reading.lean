import HookLint.Proofs.Config.Runs
import HookLint.Proofs.Config.Values
import Mathlib.Data.List.Nodup

/-! Which JSON values are configurations, and what is said of the others. A member is looked at by itself:
what is wrong with it does not depend on the members before it. So the fault of an object is that of its first
faulty member, and in an object that was read the first is the one with the least key. -/
namespace HookLint.Config

open HookLint.Json (Increasing keyBytes)

/-- What is wrong with a member. Of a list of hooks it is what is wrong with the first item that is no name. -/
inductive MemberFault (key : String) (v : Json.Value) : ConfigFault → Prop
  | unknownKey (notSeverity : key ≠ "severity") (notHooks : key ≠ "additionalHooks") :
    MemberFault key v (.unknownKey key)
  | severity (here : key = "severity") (unknown : ∀ s, ¬ Denotes v s) :
    MemberFault key v (.unknownSeverity (severityText v))
  | noArray (here : key = "additionalHooks") (other : ∀ items, v ≠ .array items) :
    MemberFault key v (.hooksNotAnArray v.kind)
  | item (here : key = "additionalHooks") {good : List String} {bad : Json.Value} {rest : List Json.Value}
    {f : ConfigFault} (items : v = .array (good.map .string ++ bad :: rest)) (ok : ∀ n ∈ good, isIdentifier n)
    (fault : ItemFault good.length bad f) : MemberFault key v f

variable {c c' : Config} {key : String} {v : Json.Value} {members : Json.Members} {f : ConfigFault}

/-- A member is at fault whatever the configuration is that it is added to. -/
theorem addMember_eq_error_iff : c.addMember key v = .error f ↔ MemberFault key v f := by
  unfold addMember
  constructor
  · intro failed
    split at failed
    · rename_i here
      obtain ⟨unknown, rfl⟩ := severityOfJson_eq_error_iff.mp (map_eq_error_iff.mp failed)
      exact .severity here unknown
    · rename_i notSeverity
      split at failed
      · rename_i here
        cases v with
        | array items =>
          obtain ⟨good, bad, rest, rfl, ok, fault⟩ := addItems_eq_error_iff.mp failed
          rw [Nat.zero_add] at fault
          exact .item here rfl ok fault
        | null | bool | number | string | object =>
          cases failed
          exact .noArray here nofun
      · rename_i notHooks
        cases failed
        exact .unknownKey notSeverity notHooks
  · intro fault
    cases fault with
    | unknownKey notSeverity notHooks => rw [if_neg notSeverity, if_neg notHooks]
    | severity here unknown =>
      rw [if_pos here, map_eq_error_iff]
      exact severityOfJson_eq_error_iff.mpr ⟨unknown, rfl⟩
    | noArray here other =>
      rw [here, if_neg (by decide), if_pos rfl]
      cases v with
      | array items => exact absurd rfl (other items)
      | null | bool | number | string | object => rfl
    | item here items ok fault =>
      rw [here, if_neg (by decide), if_pos rfl, items]
      rw [← Nat.zero_add (List.length _)] at fault
      exact addItems_of_bad c ok fault _

/-- A member without fault sets the severity, or it adds names. -/
theorem cases_of_addMember (added : c.addMember key v = .ok c') :
    (key = "severity" ∧ ∃ s, Denotes v s ∧ c' = { c with severity := s }) ∨
      key = "additionalHooks" ∧ ∃ names : List String, v = .array (names.map .string) ∧
        (∀ n ∈ names, isIdentifier n) ∧ c' = c.addHooks names := by
  unfold addMember at added
  split at added
  · rename_i here
    obtain ⟨s, read, rfl⟩ := map_eq_ok_iff.mp added
    exact Or.inl ⟨here, s, severityOfJson_eq_ok_iff.mp read, rfl⟩
  · split at added
    · rename_i here
      cases v with
      | array items =>
        obtain ⟨names, rfl, ok, rfl⟩ := addItems_eq_ok_iff.mp added
        exact Or.inr ⟨here, names, rfl, ok, rfl⟩
      | null | bool | number | string | object => cases added
    · cases added

theorem addMembers_append (c : Config) (front rest : Json.Members) :
    c.addMembers (front ++ rest) = c.addMembers front >>= fun c => c.addMembers rest := by
  induction front generalizing c with
  | nil => rfl
  | cons m front ih =>
    rw [List.cons_append, addMembers, addMembers, bind_assoc]
    exact congrArg _ (funext ih)

theorem addMembers_eq_error_iff :
    c.addMembers members = .error f ↔ ∃ front key v rest, members = front ++ (key, v) :: rest ∧
      (∀ m ∈ front, ∀ g, ¬ MemberFault m.1 m.2 g) ∧ MemberFault key v f := by
  induction members generalizing c with
  | nil => exact iff_of_false nofun fun ⟨front, _, _, _, whole, _⟩ => by cases front <;> cases whole
  | cons m members ih =>
    obtain ⟨key, v⟩ := m
    rw [addMembers, bind_eq_error_iff]
    simp only [addMember_eq_error_iff, ih]
    constructor
    · rintro (fault | ⟨next, added, front, key', v', rest, rfl, ok, fault⟩)
      · exact ⟨[], key, v, members, rfl, List.forall_mem_nil _, fault⟩
      · have faultless : ∀ g, ¬ MemberFault key v g := by
          intro g fault
          rw [addMember_eq_error_iff.mpr fault] at added
          cases added
        exact ⟨(key, v) :: front, key', v', rest, rfl, List.forall_mem_cons.mpr ⟨faultless, ok⟩, fault⟩
    · rintro ⟨front, key', v', rest, whole, ok, fault⟩
      cases front with
      | nil =>
        cases whole
        exact Or.inl fault
      | cons first front =>
        obtain ⟨rfl, rfl⟩ := List.cons.inj whole
        cases added : c.addMember key v with
        | error g => exact absurd (addMember_eq_error_iff.mp added) (ok (key, v) List.mem_cons_self g)
        | ok next =>
          exact Or.inr ⟨next, rfl, front, key', v', rest, rfl,
            fun m member => ok m (List.mem_cons_of_mem _ member), fault⟩

/-- In an object in order, the first faulty member is the one with the least key among the faulty ones. -/
theorem addMembers_eq_error_iff_least (increasing : Increasing members) :
    c.addMembers members = .error f ↔ ∃ key v, (key, v) ∈ members ∧ MemberFault key v f ∧
      ∀ key' v' g, (key', v') ∈ members → MemberFault key' v' g → keyBytes key ≤ keyBytes key' := by
  rw [addMembers_eq_error_iff]
  constructor
  · rintro ⟨front, key, v, rest, rfl, ok, fault⟩
    refine ⟨key, v, List.mem_append_right _ List.mem_cons_self, fault, ?_⟩
    intro key' v' g member fault'
    rcases List.mem_append.mp member with before | here
    · exact absurd fault' (ok (key', v') before g)
    · rcases List.mem_cons.mp here with same | behind
      · cases same
        exact le_refl _
      · have later := (List.pairwise_append.mp increasing).2.1
        exact ((List.pairwise_cons.mp later).1 (key', v') behind).le
  · rintro ⟨key, v, member, fault, least⟩
    obtain ⟨front, rest, rfl⟩ := List.append_of_mem member
    refine ⟨front, key, v, rest, rfl, ?_, fault⟩
    intro m before g fault'
    have less := (List.pairwise_append.mp increasing).2.2 m before (key, v) List.mem_cons_self
    exact absurd (least m.1 m.2 g (List.mem_append_left _ before) fault') (not_le.mpr less)

theorem severity_of_absent (absent : ∀ v, ("severity", v) ∉ members) (added : c.addMembers members = .ok c') :
    c'.severity = c.severity := by
  induction members generalizing c with
  | nil => exact congrArg severity (Except.ok.inj added).symm
  | cons m members ih =>
    obtain ⟨next, first, rest⟩ := bind_eq_ok_iff.mp added
    rw [ih (fun v member => absent v (List.mem_cons_of_mem _ member)) rest]
    rcases cases_of_addMember first with ⟨here, -⟩ | ⟨-, names, -, -, rfl⟩
    · exact absurd (here ▸ List.mem_cons_self) (absent m.2)
    · rw [addHooks_eq]

theorem hooks_of_absent (absent : ∀ v, ("additionalHooks", v) ∉ members)
    (added : c.addMembers members = .ok c') : c'.additionalHooks = c.additionalHooks := by
  induction members generalizing c with
  | nil => exact congrArg additionalHooks (Except.ok.inj added).symm
  | cons m members ih =>
    obtain ⟨next, first, rest⟩ := bind_eq_ok_iff.mp added
    rw [ih (fun v member => absent v (List.mem_cons_of_mem _ member)) rest]
    rcases cases_of_addMember first with ⟨-, s, -, rfl⟩ | ⟨here, -⟩
    · rfl
    · exact absurd (here ▸ List.mem_cons_self) (absent m.2)

/-- The work of a member, between that of others with other keys. -/
theorem exists_addMember_of_mem (distinct : (members.map Prod.fst).Nodup) (member : (key, v) ∈ members)
    (added : c.addMembers members = .ok c') :
    ∃ front rest c₁ c₂, (∀ w, (key, w) ∉ front) ∧ (∀ w, (key, w) ∉ rest) ∧ c.addMembers front = .ok c₁ ∧
      c₁.addMember key v = .ok c₂ ∧ c₂.addMembers rest = .ok c' := by
  obtain ⟨front, rest, rfl⟩ := List.append_of_mem member
  rw [addMembers_append] at added
  obtain ⟨c₁, before, added⟩ := bind_eq_ok_iff.mp added
  obtain ⟨c₂, here, after⟩ := bind_eq_ok_iff.mp added
  rw [List.map_append, List.map_cons, List.nodup_middle, List.nodup_cons, ← List.map_append] at distinct
  have other : ∀ w, (key, w) ∉ front ++ rest :=
    fun w inside => distinct.1 (List.mem_map.mpr ⟨(key, w), inside, rfl⟩)
  exact ⟨front, rest, c₁, c₂, fun w inside => other w (List.mem_append_left _ inside),
    fun w inside => other w (List.mem_append_right _ inside), before, here, after⟩

/-- What members without fault say. Each field is what its member says, or what is usual without one. -/
structure Accepted (members : Json.Members) (c : Config) : Prop where
  known : ∀ m ∈ members, m.1 = "severity" ∨ m.1 = "additionalHooks"
  severity : ∀ v, ("severity", v) ∈ members → Denotes v c.severity
  usualSeverity : (∀ v, ("severity", v) ∉ members) → c.severity = .error
  hooks : ∀ v, ("additionalHooks", v) ∈ members → v = .array (c.additionalHooks.map .string)
  named : ∀ h ∈ c.additionalHooks, isIdentifier h
  usualHooks : (∀ v, ("additionalHooks", v) ∉ members) → c.additionalHooks = []

theorem accepted_of_addMembers (distinct : (members.map Prod.fst).Nodup)
    (added : addMembers {} members = .ok c) : Accepted members c where
  known := by
    intro m member
    obtain ⟨_, _, _, _, -, -, -, here, -⟩ := exists_addMember_of_mem distinct member added
    exact (cases_of_addMember here).imp And.left And.left
  severity := by
    intro v member
    obtain ⟨_, _, _, _, -, absent, -, here, after⟩ := exists_addMember_of_mem distinct member added
    rw [severity_of_absent absent after]
    rcases cases_of_addMember here with ⟨-, s, denoted, rfl⟩ | ⟨other, -⟩
    · exact denoted
    · exact absurd other (by decide)
  usualSeverity absent := severity_of_absent absent added
  hooks := by
    intro v member
    obtain ⟨_, _, _, _, absent, absent', before, here, after⟩ := exists_addMember_of_mem distinct member added
    rw [hooks_of_absent absent' after]
    rcases cases_of_addMember here with ⟨other, -⟩ | ⟨-, names, rfl, -, rfl⟩
    · exact absurd other (by decide)
    · -- nothing was there before, so the names of the member are all there are
      rw [addHooks_eq, hooks_of_absent absent before, List.nil_append]
  named h member := (wellNamed_default.addMembers added h member).2
  usualHooks absent := hooks_of_absent absent added

theorem Accepted.faultless (accepted : Accepted members c) (member : (key, v) ∈ members) :
    ¬ MemberFault key v f := by
  intro fault
  cases fault with
  | unknownKey notSeverity notHooks => exact (accepted.known _ member).elim notSeverity notHooks
  | severity here unknown => exact unknown _ (accepted.severity v (here ▸ member))
  | noArray here other => exact other _ (accepted.hooks v (here ▸ member))
  | item here items ok fault =>
    rename_i good bad rest
    have whole := accepted.hooks v (here ▸ member)
    rw [items, Json.Value.array.injEq] at whole
    have inside : bad ∈ c.additionalHooks.map Json.Value.string :=
      whole ▸ List.mem_append_right _ List.mem_cons_self
    obtain ⟨name, named, rfl⟩ := List.mem_map.mp inside
    cases fault with
    | notAString other => exact other name rfl
    | empty => exact absurd (accepted.named "" named) (by decide)
    | notAName _ other => exact other (accepted.named name named)

theorem denotes_unique {s s' : Severity} (one : Denotes v s) (other : Denotes v s') : s = s' := by
  have read := severityOfJson_eq_ok_iff.mpr one
  rw [severityOfJson_eq_ok_iff.mpr other] at read
  exact (Except.ok.inj read).symm

theorem Accepted.unique (accepted : Accepted members c) (accepted' : Accepted members c') : c = c' := by
  have severity : c.severity = c'.severity := by
    by_cases present : ∃ v, ("severity", v) ∈ members
    · obtain ⟨v, member⟩ := present
      exact denotes_unique (accepted.severity v member) (accepted'.severity v member)
    · have absent := not_exists.mp present
      rw [accepted.usualSeverity absent, accepted'.usualSeverity absent]
  have hooks : c.additionalHooks = c'.additionalHooks := by
    by_cases present : ∃ v, ("additionalHooks", v) ∈ members
    · obtain ⟨v, member⟩ := present
      have same := (accepted.hooks v member).symm.trans (accepted'.hooks v member)
      have string : Function.Injective Json.Value.string := fun _ _ => Json.Value.string.inj
      exact List.map_injective_iff.mpr string (Json.Value.array.inj same)
    · have absent := not_exists.mp present
      rw [accepted.usualHooks absent, accepted'.usualHooks absent]
  cases c
  cases c'
  simp only at severity hooks
  rw [severity, hooks]

theorem addMembers_eq_ok_iff (distinct : (members.map Prod.fst).Nodup) :
    addMembers {} members = .ok c ↔ Accepted members c := by
  refine ⟨accepted_of_addMembers distinct, fun accepted => ?_⟩
  cases added : addMembers {} members with
  | error f =>
    obtain ⟨front, key, v, rest, rfl, -, fault⟩ := addMembers_eq_error_iff.mp added
    exact absurd fault (accepted.faultless (List.mem_append_right _ List.mem_cons_self))
  | ok c' => rw [accepted.unique (accepted_of_addMembers distinct added)]

/-- Only objects are configurations, and of those the ones in which no member is at fault; the configuration
has what their members say. Of the faulty members of another object the one with the least key is reported,
in the order of bytes, which is the order that the members of a value have after it was read. A number stands
for a level when it is printed as 1 or 2, and no number but these themselves is. -/
theorem ofJson_exact :
    (∀ text v, Json.read text = .ok v → v.Ordered) ∧
      (∀ v, (∀ members, v ≠ .object members) → ofJson v = .error (.notAnObject v.kind)) ∧
      (∀ members, Increasing members →
        (∀ c, ofJson (.object members) = .ok c ↔ Accepted members c) ∧
        ∀ f, ofJson (.object members) = .error f ↔ ∃ key v, (key, v) ∈ members ∧ MemberFault key v f ∧
          ∀ key' v' g, (key', v') ∈ members → MemberFault key' v' g → keyBytes key ≤ keyBytes key') ∧
      ∀ n : Json.Number, (String.ofList n.text = "1" ↔ n = .natural 1) ∧
        (String.ofList n.text = "2" ↔ n = .natural 2) := by
  refine ⟨fun text v => Json.ordered_of_read, ?_, ?_, ?_⟩
  · intro v other
    cases v with
    | object members => exact absurd rfl (other members)
    | null | bool | number | string | array => rfl
  · intro members increasing
    exact ⟨fun c => addMembers_eq_ok_iff increasing.nodup, fun f => addMembers_eq_error_iff_least increasing⟩
  · intro n
    have digits : ∀ m, String.ofList n.text = String.ofList (Json.decimalDigits m) ↔ n = .natural m := fun m =>
      String.ofList_inj.trans Json.Number.text_eq_decimalDigits_iff
    exact ⟨digits 1, digits 2⟩

/-- Two items are no names, and the members behind them are at fault too. -/
def mixedMembers : Json.Members :=
  [("additionalHooks", .array [.string "useForm", .number (.natural 7), .string ""]), ("mode", .null),
    ("severity", .string "loud")]

def repeatedMembers : Json.Members :=
  [("additionalHooks", .array [.string "useForm", .string "useForm"]), ("severity", .number (.natural 1))]

theorem accepted_repeatedMembers : Accepted repeatedMembers ⟨["useForm", "useForm"], .warn⟩ where
  known := by decide
  severity v member := by
    obtain rfl : v = .number (.natural 1) := by simpa [repeatedMembers] using member
    exact .one (by decide)
  usualSeverity absent := absurd (by simp [repeatedMembers]) (absent (.number (.natural 1)))
  hooks v member := by simpa [repeatedMembers] using member
  named := by decide
  usualHooks absent := absurd List.mem_cons_self (absent _)

theorem ofJson_mixedMembers :
    Increasing mixedMembers ∧ Increasing repeatedMembers ∧
      ofJson (.object mixedMembers) = .error (.nonStringHook 1 .number) ∧
      ofJson (.object repeatedMembers) = .ok ⟨["useForm", "useForm"], .warn⟩ ∧
      ofJson (.array []) = .error (.notAnObject .array) := by
  obtain ⟨-, others, objects, -⟩ := ofJson_exact
  have mixed : Increasing mixedMembers := by unfold Increasing; decide
  have repeated : Increasing repeatedMembers := by unfold Increasing; decide
  have first : ∀ m ∈ mixedMembers, keyBytes "additionalHooks" ≤ keyBytes m.1 := by decide
  have fault : ItemFault ["useForm"].length (.number (.natural 7)) (.nonStringHook 1 .number) :=
    .notAString nofun
  refine ⟨mixed, repeated, ?_, ((objects _ repeated).1 _).mpr accepted_repeatedMembers, others _ nofun⟩
  exact ((objects _ mixed).2 _).mpr ⟨"additionalHooks", _, List.mem_cons_self,
    .item rfl rfl (by decide) fault, fun key' v' g member _ => first (key', v') member⟩

end HookLint.Config
