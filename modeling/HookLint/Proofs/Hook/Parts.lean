import HookLint.Proofs.Hook.Exactness

/-! What a lowering reads of a node: its kind and its place, some of its fields and its arguments. Nodes that
agree in these have the same expression and the same call. -/
namespace HookLint.Hook

open HookLint.Text HookLint.Tree

variable {bytes bytes' : ByteArray}

/-- The list of the arguments of a call, as the call takes it over. -/
def listed (bytes : ByteArray) (list : Node) : String × List Expression :=
  (list.kind, list.arguments.map (lower bytes))

/-- Two nodes of one kind and at one place, of whose parts a lowering reads the same. -/
structure SameParts (bytes bytes' : ByteArray) (n n' : Node) : Prop where
  kind : n'.kind = n.kind
  span : n'.span = n.span
  text : n.kind = "identifier" → identifier? bytes' n' = identifier? bytes n
  arguments : n'.arguments.map (lower bytes') = n.arguments.map (lower bytes)
  lowered : ∀ f, (n'.childByField f).map (lower bytes') = (n.childByField f).map (lower bytes)
  property : n.kind = "member_expression" →
    (n'.childByField "property").map (propertyOf bytes') = (n.childByField "property").map (propertyOf bytes)
  name : n.kind ∈ functionKinds →
    (n'.childByField "name").map (identifier? bytes') = (n.childByField "name").map (identifier? bytes)
  list : n.kind = "call_expression" →
    (n'.childByField "arguments").map (listed bytes') = (n.childByField "arguments").map (listed bytes)

theorem lower_of_parenthesized (bytes : ByteArray) {n : Node} (kind : n.kind = "parenthesized_expression") :
    lower bytes n = ((n.arguments.map (lower bytes)).head?).getD (.other n.span) := by
  rw [List.head?_map]
  cases first : n.arguments.head? with
  | none => exact lower_of_empty bytes kind first
  | some c => exact lower_of_inner bytes kind first

theorem lower_of_member_parts (bytes : ByteArray) {n : Node} (kind : n.kind = "member_expression") :
    lower bytes n =
      match (n.childByField "object").map (lower bytes),
        ((n.childByField "property").map (propertyOf bytes)).bind id with
      | some object, some property => .member object property n.span
      | _, _ => .other n.span := by
  rw [lower_of_member bytes kind, Option.bind_map, Function.id_comp]
  cases n.childByField "object" <;> cases (n.childByField "property").bind (propertyOf bytes) <;> rfl

theorem lower_of_subscript_parts (bytes : ByteArray) {n : Node} (kind : n.kind = "subscript_expression") :
    lower bytes n =
      match (n.childByField "object").map (lower bytes), (n.childByField "index").map (lower bytes) with
      | some object, some index => .member object (.computed index) n.span
      | _, _ => .other n.span := by
  rw [lower_of_subscript bytes kind]
  cases n.childByField "object" <;> cases n.childByField "index" <;> rfl

theorem lower_of_function_parts (bytes : ByteArray) {n : Node} (kind : n.kind ∈ functionKinds) :
    lower bytes n = .function (((n.childByField "name").map (identifier? bytes)).bind id) n.span := by
  rw [lower_of_function bytes kind, Option.bind_map, Function.id_comp]

theorem lowerCall?_of_other (bytes : ByteArray) {n : Node} (kind : n.kind ≠ "call_expression") :
    lowerCall? bytes n = none := by
  simp [lowerCall?, kind]

theorem lowerCall?_parts (bytes : ByteArray) {n : Node} (kind : n.kind = "call_expression") :
    lowerCall? bytes n =
      match (n.childByField "function").map (lower bytes), (n.childByField "arguments").map (listed bytes) with
      | some callee, some (kind, arguments) =>
        if kind = "arguments" then some ⟨callee, arguments, n.span⟩ else none
      | _, _ => none := by
  unfold lowerCall?
  cases n.childByField "function" <;> cases n.childByField "arguments" <;> simp [kind, listed]

namespace SameParts

variable {n n' : Node}

theorem lower_eq (same : SameParts bytes bytes' n n') : lower bytes' n' = lower bytes n := by
  have kind' := same.kind
  have span := same.span
  by_cases known : n.kind ∈ expressionKinds
  · simp only [expressionKinds, List.mem_append, List.mem_cons, List.not_mem_nil, or_false] at known
    rcases known with (kind | kind | kind | kind | kind) | kind
    · rw [lower_of_identifier _ kind, lower_of_identifier _ (kind'.trans kind), same.text kind, span]
    · rw [lower_of_parenthesized _ kind, lower_of_parenthesized _ (kind'.trans kind), same.arguments, span]
    · rw [lower_of_member_parts _ kind, lower_of_member_parts _ (kind'.trans kind), same.lowered,
        same.property kind, span]
    · rw [lower_of_subscript_parts _ kind, lower_of_subscript_parts _ (kind'.trans kind), same.lowered,
        same.lowered, span]
    · rw [lower_of_arrow _ kind, lower_of_arrow _ (kind'.trans kind), span]
    · rw [lower_of_function_parts _ kind, lower_of_function_parts _ (kind'.symm ▸ kind), same.name kind, span]
  · rw [lower_of_unknown _ known, lower_of_unknown _ (kind'.symm ▸ known), span]

theorem lowerCall?_eq (same : SameParts bytes bytes' n n') : lowerCall? bytes' n' = lowerCall? bytes n := by
  by_cases kind : n.kind = "call_expression"
  · rw [lowerCall?_parts _ kind, lowerCall?_parts _ (same.kind.trans kind), same.lowered, same.list kind,
      same.span]
  · rw [lowerCall?_of_other _ kind, lowerCall?_of_other _ (same.kind ▸ kind)]

end SameParts

/-- The calls of a tree in the order of a walk. -/
def callsIn (bytes : ByteArray) (n : Node) : List Call := n.preorder.filterMap (lowerCall? bytes)

theorem callsIn_mk (bytes : ByteArray) (i : NodeInfo) (cs : List Node) :
    callsIn bytes (.mk i cs) = (lowerCall? bytes (.mk i cs)).toList ++ cs.flatMap (callsIn bytes) := by
  rw [callsIn, Node.preorder, Node.preorderAll_eq_flatMap, List.filterMap_cons, List.filterMap_flatMap]
  cases lowerCall? bytes (.mk i cs) <;> rfl

end HookLint.Hook
