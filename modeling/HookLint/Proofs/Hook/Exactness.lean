import HookLint.Check.Visitor
import HookLint.Proofs.Hook.Lowering

/-! The rule said by the tree alone: which nodes are flagged, and what is reported of them. -/
namespace HookLint.Hook

open HookLint.Text HookLint.Tree

/-- The node is the callee of a tracked hook: the name itself, or the property of that name of `React`.
Parentheses may stand around the callee and around `React`. -/
inductive NamesHook (bytes : ByteArray) (hooks : List String) (n : Node) (hook : String) : Prop where
  | direct (kind : n.strip.kind = "identifier") (text : slice bytes n.strip.span = some hook)
      (tracked : hook ∈ hooks)
  | member {object property : Node} (kind : n.strip.kind = "member_expression")
      (left : n.strip.childByField "object" = some object)
      (leftKind : object.strip.kind = "identifier")
      (leftText : slice bytes object.strip.span = some "React")
      (right : n.strip.childByField "property" = some property)
      (rightKind : property.kind = "property_identifier")
      (text : slice bytes property.span = some hook) (tracked : hook ∈ hooks)

/-- The node is, inside its parentheses, a function without a name. -/
inductive UnnamedFunction (n : Node) : AnonymousKind → Prop where
  | arrow (kind : n.strip.kind = "arrow_function") : UnnamedFunction n .arrow
  | function (kind : n.strip.kind ∈ functionKinds) (unnamed : n.strip.childByField "name" = none) :
      UnnamedFunction n .functionExpression

theorem resolve?_identifier_iff (hooks : List String) (id : Identifier) (hook : String) :
    resolve? hooks (.identifier id) = some hook ↔ id.name = hook ∧ hook ∈ hooks := by
  constructor
  · intro h
    simp only [resolve?] at h
    split at h
    · rename_i tracked
      cases h
      exact ⟨rfl, List.contains_iff_mem.mp tracked⟩
    · cases h
  · rintro ⟨rfl, tracked⟩
    simp [resolve?, tracked]

theorem resolve?_member_iff (hooks : List String) (object : Expression) (property : Property)
    (span : Span) (hook : String) :
    resolve? hooks (.member object property span) = some hook ↔
      ∃ left right, object = .identifier left ∧ property = .named right ∧
        left.name = "React" ∧ right.name = hook ∧ hook ∈ hooks := by
  constructor
  · intro h
    unfold resolve? at h
    split at h
    · rename_i same
      cases same
    · rename_i left right _ same
      cases same
      split at h
      · rename_i both
        simp only [namespaceName, Bool.and_eq_true, beq_iff_eq, List.contains_iff_mem] at both
        cases h
        exact ⟨left, right, rfl, rfl, both.1, rfl, both.2⟩
      · cases h
    · cases h
  · rintro ⟨left, right, rfl, rfl, react, rfl, tracked⟩
    simp [resolve?, namespaceName, react, tracked]

theorem resolve?_lower_iff (bytes : ByteArray) (hooks : List String) (n : Node) (hook : String) :
    resolve? hooks (lower bytes n) = some hook ↔ NamesHook bytes hooks n hook := by
  constructor
  · intro h
    have shape := shape_lower bytes n
    generalize lower bytes n = e at h shape
    cases shape with
    | identifier kind spelled =>
      obtain ⟨name, text, rfl⟩ := Option.map_eq_some_iff.mp spelled
      obtain ⟨rfl, tracked⟩ := (resolve?_identifier_iff _ _ _).mp h
      exact .direct kind text tracked
    | member kind left right named =>
      obtain ⟨object, property, hobject, rfl, react, rfl, tracked⟩ :=
        (resolve?_member_iff _ _ _ _ _).mp h
      obtain ⟨leftKind, leftSpelled⟩ := (lower_eq_identifier_iff _ _ _).mp hobject
      obtain ⟨rightKind, rightSpelled⟩ := (propertyOf_eq_named_iff _ _ _).mp named
      obtain ⟨_, leftText, rfl⟩ := Option.map_eq_some_iff.mp leftSpelled
      obtain ⟨_, rightText, rfl⟩ := Option.map_eq_some_iff.mp rightSpelled
      cases react
      exact .member kind left leftKind leftText right rightKind rightText tracked
    | subscript =>
      obtain ⟨_, _, _, computed, _⟩ := (resolve?_member_iff _ _ _ _ _).mp h
      cases computed
    | arrow => cases h
    | function => cases h
    | other => cases h
  · intro h
    rw [← lower_strip]
    cases h with
    | direct kind text tracked =>
      rw [lower_of_identifier bytes kind, identifier?, text]
      exact (resolve?_identifier_iff _ _ _).mpr ⟨rfl, tracked⟩
    | @member object property kind left leftKind leftText right rightKind text tracked =>
      have named : propertyOf bytes property = some (.named ⟨hook, property.span⟩) :=
        (propertyOf_eq_named_iff _ _ _).mpr ⟨rightKind, by rw [identifier?, text]; rfl⟩
      have react : lower bytes object = .identifier ⟨"React", object.strip.span⟩ :=
        (lower_eq_identifier_iff _ _ _).mpr ⟨leftKind, by rw [identifier?, leftText]; rfl⟩
      rw [lower_of_member bytes kind, left, right, Option.bind_some, named]
      exact (resolve?_member_iff _ _ _ _ _).mpr ⟨_, _, react, rfl, rfl, rfl, tracked⟩

/-- A name that cannot be read would count as none, so the names must be readable. -/
theorem anonymousKind?_lower_iff (bytes : ByteArray) (n : Node) (kind : AnonymousKind)
    (readable : ∀ name, n.strip.childByField "name" = some name → (slice bytes name.span).isSome) :
    anonymousKind? (lower bytes n) = some kind ↔ UnnamedFunction n kind := by
  constructor
  · intro h
    have shape := shape_lower bytes n
    generalize lower bytes n = e at h shape
    cases shape with
    | identifier => cases h
    | member => cases h
    | subscript => cases h
    | arrow isArrow =>
      cases h
      exact .arrow isArrow
    | function isFunction =>
      cases name : n.strip.childByField "name" with
      | none =>
        rw [name] at h
        cases h
        exact .function isFunction name
      | some m =>
        obtain ⟨text, read⟩ := Option.isSome_iff_exists.mp (readable m name)
        rw [name, Option.bind_some, identifier?, read] at h
        cases h
    | other => cases h
  · intro h
    rw [← lower_strip]
    cases h with
    | arrow isArrow =>
      rw [lower_of_arrow bytes isArrow]
      rfl
    | function isFunction unnamed =>
      rw [lower_of_function bytes isFunction, unnamed]
      rfl

theorem lowerCall?_eq_some_iff (bytes : ByteArray) (n : Node) (call : Call) :
    lowerCall? bytes n = some call ↔
      n.kind = "call_expression" ∧ ∃ callee list, n.childByField "function" = some callee ∧
        n.childByField "arguments" = some list ∧ list.kind = "arguments" ∧
        call = ⟨lower bytes callee, list.arguments.map (lower bytes), n.span⟩ := by
  unfold lowerCall?
  by_cases kind : n.kind = "call_expression"
  · rw [if_neg (by simp [kind])]
    cases n.childByField "function" with
    | none => simp
    | some callee =>
      cases n.childByField "arguments" with
      | none => simp
      | some list =>
        by_cases listKind : list.kind = "arguments"
        · simp [kind, listKind, eq_comm]
        · simp [listKind]
  · rw [if_pos (by simp [kind])]
    simp [kind]

theorem detect?_eq_some_iff (hooks : List String) (call : Call) (d : Diagnostic) :
    detect? hooks call = some d ↔
      ∃ first, call.arguments.head? = some first ∧ resolve? hooks call.callee = some d.hook ∧
        anonymousKind? first = some d.kind ∧ d.span = first.span := by
  simp only [detect?, Option.bind_eq_bind, Option.bind_eq_some_iff, Option.pure_def]
  constructor
  · rintro ⟨hook, resolved, first, head, kind, anonymous, same⟩
    cases same
    exact ⟨first, head, resolved, anonymous, rfl⟩
  · rintro ⟨first, head, resolved, anonymous, span⟩
    refine ⟨d.hook, resolved, first, head, d.kind, anonymous, ?_⟩
    rw [← span]

/-- A call is flagged exactly when it calls a tracked hook with an unnamed function first. What is
reported is the name of the hook, the kind of the function and the place of the function. -/
theorem flagged_iff (c : Config) (bytes : ByteArray) (n : Node)
    (readable : ∀ m ∈ n.preorder, (slice bytes m.span).isSome) (d : Diagnostic) :
    (lowerCall? bytes n).bind (detect? c.hooks) = some d ↔
      n.kind = "call_expression" ∧ ∃ callee list first, n.childByField "function" = some callee ∧
        n.childByField "arguments" = some list ∧ list.kind = "arguments" ∧
        list.arguments.head? = some first ∧ NamesHook bytes c.hooks callee d.hook ∧
        UnnamedFunction first d.kind ∧ d.span = first.strip.span := by
  have names : ∀ list first, n.childByField "arguments" = some list →
      list.arguments.head? = some first → ∀ name, first.strip.childByField "name" = some name →
      (slice bytes name.span).isSome := by
    intro list first hlist hfirst name hname
    apply readable
    apply Node.mem_preorder_of_child (Node.child_of_field hlist)
    apply Node.mem_preorder_of_child (Node.child_of_arguments_head? hfirst)
    exact Node.preorder_trans (Node.strip_mem_preorder first)
      (Node.mem_preorder_of_child (Node.child_of_field hname) (Node.self_mem_preorder name))
  simp only [Option.bind_eq_some_iff, lowerCall?_eq_some_iff, detect?_eq_some_iff]
  constructor
  · rintro ⟨_, ⟨kind, callee, list, hcallee, hlist, listKind, rfl⟩, e, head, resolved, anonymous, span⟩
    simp only [List.head?_map, Option.map_eq_some_iff] at head
    obtain ⟨first, hfirst, rfl⟩ := head
    refine ⟨kind, callee, list, first, hcallee, hlist, listKind, hfirst, ?_, ?_, ?_⟩
    · exact (resolve?_lower_iff _ _ _ _).mp resolved
    · exact (anonymousKind?_lower_iff _ _ _ (names list first hlist hfirst)).mp anonymous
    · rw [span, span_lower]
  · rintro ⟨kind, callee, list, first, hcallee, hlist, listKind, hfirst, hook, unnamed, span⟩
    refine ⟨_, ⟨kind, callee, list, hcallee, hlist, listKind, rfl⟩, lower bytes first, ?_, ?_, ?_, ?_⟩
    · rw [List.head?_map, hfirst, Option.map_some]
    · exact (resolve?_lower_iff _ _ _ _).mpr hook
    · exact (anonymousKind?_lower_iff _ _ _ (names list first hlist hfirst)).mpr unnamed
    · rw [span, span_lower]

def memoText : String := "(React).useMemo(/**/(function(){}))"

/-- A call through the namespace, with parentheses and a comment on the way to the function. -/
def memoCall : Node :=
  let leaf (kind : String) (field : Option String) (extra : Bool) (start stop : Nat) : Node :=
    .mk { kind, named := true, extra, field, span := ⟨start, stop, 1, start + 1⟩ } []
  let mark (text : String) (start : Nat) : Node :=
    .mk { kind := text, named := false, span := ⟨start, start + 1, 1, start + 1⟩ } []
  let group (kind : String) (field : Option String) (start stop : Nat) (cs : List Node) : Node :=
    .mk { kind, named := true, field, span := ⟨start, stop, 1, start + 1⟩ } cs
  group "call_expression" none 0 35
    [group "member_expression" (some "function") 0 15
      [group "parenthesized_expression" (some "object") 0 7
        [mark "(" 0, leaf "identifier" none false 1 6, mark ")" 6],
       mark "." 7, leaf "property_identifier" (some "property") false 8 15],
     group "arguments" (some "arguments") 15 35
      [mark "(" 15, leaf "comment" none true 16 20,
       group "parenthesized_expression" none 20 34
        [mark "(" 20, leaf "function_expression" none false 21 33, mark ")" 33],
       mark ")" 34]]

theorem flagged_memoCall :
    (∀ m ∈ memoCall.preorder, (slice memoText.toUTF8 m.span).isSome) ∧
      (lowerCall? memoText.toUTF8 memoCall).bind (detect? ({} : Config).hooks) =
        some ⟨"useMemo", .functionExpression, ⟨21, 33, 1, 22⟩⟩ ∧
      ∃ callee list first, memoCall.childByField "function" = some callee ∧
        memoCall.childByField "arguments" = some list ∧ list.arguments.head? = some first ∧
        NamesHook memoText.toUTF8 ({} : Config).hooks callee "useMemo" ∧
        UnnamedFunction first .functionExpression := by
  have readable : ∀ m ∈ memoCall.preorder, (slice memoText.toUTF8 m.span).isSome := by
    decide +kernel
  have found : (lowerCall? memoText.toUTF8 memoCall).bind (detect? ({} : Config).hooks) =
      some ⟨"useMemo", .functionExpression, ⟨21, 33, 1, 22⟩⟩ := by decide
  obtain ⟨_, callee, list, first, hcallee, hlist, _, hfirst, hook, unnamed, _⟩ :=
    (flagged_iff {} memoText.toUTF8 memoCall readable _).mp found
  exact ⟨readable, found, callee, list, first, hcallee, hlist, hfirst, hook, unnamed⟩

end HookLint.Hook
