import HookLint.Hook.Lower
import HookLint.Proofs.Tree.Parentheses

/-! What the expression of a node is, kind by kind, and by the node inside its parentheses. -/
namespace HookLint.Hook

open HookLint.Text HookLint.Tree

theorem lowerFirst_eq (bytes : ByteArray) (outer : Span) (n : Node) :
    lowerFirst bytes outer n.children =
      match n.arguments.head? with
      | some c => lower bytes c
      | none => .other outer := by
  rw [Node.arguments]
  induction n.children with
  | nil => rfl
  | cons c cs ih =>
    cases c with
    | mk i ds =>
      by_cases argument : i.isArgument
      · simp [lowerFirst, argument]
      · simp [lowerFirst, argument, ih]

theorem lowerField_eq (bytes : ByteArray) (field : String) (n : Node) :
    lowerField bytes field n.children = (n.childByField field).map (lower bytes) := by
  rw [Node.childByField]
  induction n.children with
  | nil => rfl
  | cons c cs ih =>
    cases c with
    | mk i ds =>
      by_cases here : i.field = some field
      · simp [lowerField, here]
      · simp [lowerField, here, ih]

def propertyOf (bytes : ByteArray) (n : Node) : Option Property :=
  match n.kind with
  | "property_identifier" => (identifier? bytes n).map .named
  | "private_property_identifier" => (identifier? bytes n).map .hidden
  | _ => some (.computed (lower bytes n))

theorem lowerProperty_eq (bytes : ByteArray) (n : Node) :
    lowerProperty bytes n.children = (n.childByField "property").bind (propertyOf bytes) := by
  rw [Node.childByField]
  induction n.children with
  | nil => rfl
  | cons c cs ih =>
    cases c with
    | mk i ds =>
      by_cases here : i.field = some "property"
      · simp only [lowerProperty, propertyOf, identifier?, here, Node.info_mk, Node.kind_mk,
          Node.span_mk, beq_self_eq_true, if_true, List.find?_cons_of_pos, Option.bind_some,
          Option.map_map]
        split <;> simp_all [Function.comp_def]
      · simp [lowerProperty, here, ih]

def functionKinds : List String := ["function_expression", "function", "generator_function"]

theorem lower_of_inner (bytes : ByteArray) {n c : Node}
    (parenthesized : n.kind = "parenthesized_expression")
    (inner : n.arguments.head? = some c) : lower bytes n = lower bytes c := by
  have first := lowerFirst_eq bytes n.span n
  rw [inner] at first
  cases n with
  | mk i cs =>
    rw [Node.kind_mk] at parenthesized
    simpa only [lower, parenthesized, Node.children_mk, Node.span_mk] using first

theorem lower_of_empty (bytes : ByteArray) {n : Node}
    (parenthesized : n.kind = "parenthesized_expression")
    (empty : n.arguments.head? = none) : lower bytes n = .other n.span := by
  have first := lowerFirst_eq bytes n.span n
  rw [empty] at first
  cases n with
  | mk i cs =>
    rw [Node.kind_mk] at parenthesized
    simpa only [lower, parenthesized, Node.children_mk, Node.span_mk] using first

theorem lower_of_identifier (bytes : ByteArray) {n : Node} (kind : n.kind = "identifier") :
    lower bytes n = ((identifier? bytes n).map .identifier).getD (.other n.span) := by
  cases n with
  | mk i cs =>
    rw [Node.kind_mk] at kind
    simp only [lower, kind, identifier?, Node.span_mk]
    cases slice bytes i.span <;> rfl

theorem lower_of_member (bytes : ByteArray) {n : Node} (kind : n.kind = "member_expression") :
    lower bytes n =
      match n.childByField "object", (n.childByField "property").bind (propertyOf bytes) with
      | some object, some property => .member (lower bytes object) property n.span
      | _, _ => .other n.span := by
  have object := lowerField_eq bytes "object" n
  have property := lowerProperty_eq bytes n
  cases n with
  | mk i cs =>
    rw [Node.kind_mk] at kind
    rw [Node.children_mk] at object property
    simp only [lower, kind, object, property, Node.span_mk]
    cases (Node.mk i cs).childByField "object" <;>
      cases ((Node.mk i cs).childByField "property").bind (propertyOf bytes) <;> rfl

theorem lower_of_subscript (bytes : ByteArray) {n : Node}
    (kind : n.kind = "subscript_expression") :
    lower bytes n =
      match n.childByField "object", n.childByField "index" with
      | some object, some index =>
        .member (lower bytes object) (.computed (lower bytes index)) n.span
      | _, _ => .other n.span := by
  have object := lowerField_eq bytes "object" n
  have index := lowerField_eq bytes "index" n
  cases n with
  | mk i cs =>
    rw [Node.kind_mk] at kind
    rw [Node.children_mk] at object index
    simp only [lower, kind, object, index, Node.span_mk]
    cases (Node.mk i cs).childByField "object" <;>
      cases (Node.mk i cs).childByField "index" <;> rfl

theorem lower_of_arrow (bytes : ByteArray) {n : Node} (kind : n.kind = "arrow_function") :
    lower bytes n = .arrow n.span := by
  cases n with
  | mk i cs =>
    rw [Node.kind_mk] at kind
    simp only [lower, kind, Node.span_mk]

theorem lower_of_function (bytes : ByteArray) {n : Node} (kind : n.kind ∈ functionKinds) :
    lower bytes n = .function ((n.childByField "name").bind (identifier? bytes)) n.span := by
  cases n with
  | mk i cs =>
    simp only [functionKinds, Node.kind_mk, List.mem_cons, List.not_mem_nil, or_false] at kind
    rcases kind with kind | kind | kind <;> simp only [lower, kind] <;> rfl

/-- The kinds of nodes whose expressions are more than `other`. -/
def expressionKinds : List String :=
  ["identifier", "parenthesized_expression", "member_expression", "subscript_expression",
    "arrow_function"] ++ functionKinds

theorem lower_of_unknown (bytes : ByteArray) {n : Node} (kind : n.kind ∉ expressionKinds) :
    lower bytes n = .other n.span := by
  cases n with
  | mk i cs =>
    simp only [expressionKinds, functionKinds, Node.kind_mk, List.mem_append, List.mem_cons,
      List.not_mem_nil, or_false, not_or] at kind
    unfold lower
    split <;> simp_all

/-- Parentheses leave no trace in the expression. -/
theorem lower_strip (bytes : ByteArray) (n : Node) : lower bytes n.strip = lower bytes n := by
  induction n using Node.strip_induction with
  | bare n bare =>
    rcases bare with other | empty
    · rw [Node.strip_of_kind other]
    · rw [Node.strip_of_empty empty]
  | inside n c parenthesized inner ih =>
    rw [Node.strip_of_inner parenthesized inner, ih, lower_of_inner bytes parenthesized inner]

/-- The expressions that a node can stand for when its parentheses are off. -/
inductive Shape (bytes : ByteArray) (n : Node) : Expression → Prop where
  | identifier {id : Identifier} (kind : n.kind = "identifier")
      (spelled : identifier? bytes n = some id) : Shape bytes n (.identifier id)
  | member {object property : Node} {p : Property} (kind : n.kind = "member_expression")
      (left : n.childByField "object" = some object)
      (right : n.childByField "property" = some property)
      (named : propertyOf bytes property = some p) :
      Shape bytes n (.member (lower bytes object) p n.span)
  | subscript {object index : Node} (kind : n.kind = "subscript_expression")
      (left : n.childByField "object" = some object)
      (right : n.childByField "index" = some index) :
      Shape bytes n (.member (lower bytes object) (.computed (lower bytes index)) n.span)
  | arrow (kind : n.kind = "arrow_function") : Shape bytes n (.arrow n.span)
  | function (kind : n.kind ∈ functionKinds) :
      Shape bytes n (.function ((n.childByField "name").bind (identifier? bytes)) n.span)
  | other : Shape bytes n (.other n.span)

theorem shape_of_bare (bytes : ByteArray) (n : Node)
    (bare : n.kind ≠ "parenthesized_expression" ∨ n.arguments.head? = none) :
    Shape bytes n (lower bytes n) := by
  by_cases known : n.kind ∈ expressionKinds
  · simp only [expressionKinds, List.mem_append, List.mem_cons, List.not_mem_nil, or_false] at known
    rcases known with (kind | kind | kind | kind | kind) | kind
    · rw [lower_of_identifier bytes kind]
      cases spelled : identifier? bytes n with
      | none => exact .other
      | some id => exact .identifier kind spelled
    · rw [lower_of_empty bytes kind (bare.resolve_left (absurd kind))]
      exact .other
    · rw [lower_of_member bytes kind]
      split
      · rename_i object p left named
        obtain ⟨property, right, named⟩ := Option.bind_eq_some_iff.mp named
        exact .member kind left right named
      · exact .other
    · rw [lower_of_subscript bytes kind]
      split
      · rename_i object index left right
        exact .subscript kind left right
      · exact .other
    · rw [lower_of_arrow bytes kind]
      exact .arrow kind
    · rw [lower_of_function bytes kind]
      exact .function kind
  · rw [lower_of_unknown bytes known]
    exact .other

theorem shape_lower (bytes : ByteArray) (n : Node) : Shape bytes n.strip (lower bytes n) := by
  induction n using Node.strip_induction with
  | bare n bare =>
    have shape := shape_of_bare bytes n bare
    rcases bare with other | empty
    · rwa [Node.strip_of_kind other]
    · rwa [Node.strip_of_empty empty]
  | inside n c parenthesized inner ih =>
    rwa [Node.strip_of_inner parenthesized inner, lower_of_inner bytes parenthesized inner]

/-- The place of an expression is that of the node inside the parentheses. -/
theorem span_lower (bytes : ByteArray) (n : Node) : (lower bytes n).span = n.strip.span := by
  have shape := shape_lower bytes n
  generalize lower bytes n = e at shape
  cases shape with
  | identifier _ spelled =>
    obtain ⟨name, _, rfl⟩ := Option.map_eq_some_iff.mp spelled
    rfl
  | member => rfl
  | subscript => rfl
  | arrow => rfl
  | function => rfl
  | other => rfl

theorem lower_eq_identifier_iff (bytes : ByteArray) (n : Node) (id : Identifier) :
    lower bytes n = .identifier id ↔
      n.strip.kind = "identifier" ∧ identifier? bytes n.strip = some id := by
  constructor
  · intro h
    have shape := shape_lower bytes n
    rw [h] at shape
    cases shape with
    | identifier kind spelled => exact ⟨kind, spelled⟩
  · rintro ⟨kind, spelled⟩
    rw [← lower_strip, lower_of_identifier bytes kind, spelled]
    rfl

theorem propertyOf_eq_named_iff (bytes : ByteArray) (n : Node) (id : Identifier) :
    propertyOf bytes n = some (.named id) ↔
      n.kind = "property_identifier" ∧ identifier? bytes n = some id := by
  unfold propertyOf
  split <;> simp_all

end HookLint.Hook
