import HookLint.Proofs.Hook.Parts
import HookLint.Proofs.Tree.Edit

/-! Calls of a tree that was edited. Comments are in no field and no arguments, and parentheses stand for what
is in them, so a lowering reads the same as before. -/
namespace HookLint.Hook

open HookLint.Text HookLint.Tree

variable {bytes bytes' : ByteArray}

theorem callsIn_of_callless {n : Node} (callless : n.Callless) : callsIn bytes n = [] := by
  refine List.filterMap_eq_nil_iff.mpr ?_
  intro m inside
  exact lowerCall?_of_other bytes (callless m inside)

/-! ### The field of the node itself -/

theorem sameParts_inField (bytes : ByteArray) (field : Option String) (n : Node) :
    SameParts bytes bytes n (n.inField field) := by
  cases n with
  | mk i cs => exact ⟨rfl, rfl, fun _ => rfl, rfl, fun _ => rfl, fun _ => rfl, fun _ => rfl, fun _ => rfl⟩

theorem callsIn_inField (bytes : ByteArray) (field : Option String) (n : Node) :
    callsIn bytes (n.inField field) = callsIn bytes n := by
  have same := (sameParts_inField bytes field n).lowerCall?_eq
  cases n with
  | mk i cs =>
    rw [Node.inField] at same ⊢
    rw [callsIn_mk, callsIn_mk, same]

/-! ### Parentheses -/

theorem arguments_of_encloses {w c : Node} (encloses : w.Encloses c) :
    ∃ field, w.arguments = [c.inField field] := by
  obtain ⟨field, front, back, children, beside⟩ := encloses.around
  have others : ∀ ms : List Node, (∀ m ∈ ms, m.Beside) →
      ms.filter (fun m => m.info.isArgument) = [] := by
    intro ms each
    refine List.filter_eq_nil_iff.mpr fun m member => ?_
    simpa using (each m member).noArgument
  have middle : (c.inField field).info.isArgument := by
    cases c
    exact encloses.argument
  refine ⟨field, ?_⟩
  rw [Node.arguments, children, List.filter_append, List.filter_cons, if_pos middle,
    others front fun m member => beside m (List.mem_append_left _ member),
    others back fun m member => beside m (List.mem_append_right _ member), List.nil_append]

theorem lower_of_encloses {w c : Node} (encloses : w.Encloses c) : lower bytes w = lower bytes c := by
  obtain ⟨field, only⟩ := arguments_of_encloses encloses
  have first : w.arguments.head? = some (c.inField field) := by rw [only, List.head?_cons]
  rw [lower_of_inner bytes encloses.kind first, (sameParts_inField bytes field c).lower_eq]

theorem callsIn_of_encloses {w c : Node} (encloses : w.Encloses c) : callsIn bytes w = callsIn bytes c := by
  obtain ⟨field, front, back, children, beside⟩ := encloses.around
  have others : ∀ ms : List Node, (∀ m ∈ ms, m.Beside) → ms.flatMap (callsIn bytes) = [] := by
    intro ms each
    refine List.flatMap_eq_nil_iff.mpr fun m member => ?_
    exact callsIn_of_callless (each m member).callless
  have kind : w.kind ≠ "call_expression" := by simp [encloses.kind]
  have none := lowerCall?_of_other bytes kind
  cases w with
  | mk i cs =>
    obtain rfl : cs = _ := children
    rw [callsIn_mk, none, List.flatMap_append, List.flatMap_cons, callsIn_inField,
      others front fun m member => beside m (List.mem_append_left _ member),
      others back fun m member => beside m (List.mem_append_right _ member)]
    simp

/-! ### Exchanges among the children -/

def childIn (f : String) (cs : List Node) : Option Node := cs.find? fun c => c.info.field == some f

theorem map_childIn_append {β : Type} {g : Node → β} {f : String} {xs ys : List Node}
    (same : (childIn f ys).map g = (childIn f xs).map g) (front back : List Node) :
    (childIn f (front ++ (ys ++ back))).map g = (childIn f (front ++ (xs ++ back))).map g := by
  simp only [childIn, List.find?_append, Option.map_or] at same ⊢
  rw [same]

theorem map_childIn_singleton {β : Type} {g : Node → β} {f : String} {c c' : Node}
    (field : c'.info.field = c.info.field) (same : c.info.field = some f → g c' = g c) :
    (childIn f [c']).map g = (childIn f [c]).map g := by
  by_cases here : c.info.field = some f
  · simp [childIn, field, here, same here]
  · simp [childIn, field, here]

/-- One part of a row of children instead of another one makes no difference to a parent of a kind. -/
structure Exchange (bytes : ByteArray) (kind : String) (xs ys : List Node) : Prop where
  arguments : (ys.filter fun c => c.info.isArgument).map (lower bytes) =
    (xs.filter fun c => c.info.isArgument).map (lower bytes)
  lowered : ∀ f, (childIn f ys).map (lower bytes) = (childIn f xs).map (lower bytes)
  property : kind = "member_expression" →
    (childIn "property" ys).map (propertyOf bytes) = (childIn "property" xs).map (propertyOf bytes)
  name : kind ∈ functionKinds →
    (childIn "name" ys).map (identifier? bytes) = (childIn "name" xs).map (identifier? bytes)
  list : kind = "call_expression" →
    (childIn "arguments" ys).map (listed bytes) = (childIn "arguments" xs).map (listed bytes)
  calls : ys.flatMap (callsIn bytes) = xs.flatMap (callsIn bytes)

/-- Two nodes that differ in nothing that is read of them from above, and in no call. -/
structure Alike (bytes : ByteArray) (n n' : Node) : Prop where
  info : n'.info = n.info
  lowered : lower bytes n' = lower bytes n
  arguments : n'.arguments.map (lower bytes) = n.arguments.map (lower bytes)
  calls : callsIn bytes n' = callsIn bytes n

theorem Exchange.alike {i : NodeInfo} {xs ys : List Node} (exchange : Exchange bytes i.kind xs ys)
    (front back : List Node) : Alike bytes (.mk i (front ++ (xs ++ back))) (.mk i (front ++ (ys ++ back))) := by
  have arguments : (Node.mk i (front ++ (ys ++ back))).arguments.map (lower bytes) =
      (Node.mk i (front ++ (xs ++ back))).arguments.map (lower bytes) := by
    simp only [Node.arguments, Node.children_mk, List.filter_append, List.map_append, exchange.arguments]
  have same : SameParts bytes bytes (.mk i (front ++ (xs ++ back))) (.mk i (front ++ (ys ++ back))) :=
    { kind := rfl
      span := rfl
      text := fun _ => rfl
      arguments
      lowered := fun f => map_childIn_append (exchange.lowered f) front back
      property := fun kind => map_childIn_append (exchange.property kind) front back
      name := fun kind => map_childIn_append (exchange.name kind) front back
      list := fun kind => map_childIn_append (exchange.list kind) front back }
  refine ⟨rfl, same.lower_eq, arguments, ?_⟩
  rw [callsIn_mk, callsIn_mk, same.lowerCall?_eq]
  simp only [List.flatMap_append, exchange.calls]

theorem exchange_comment {e : Node} (comment : e.Comment) (kind : String) : Exchange bytes kind [] [e] := by
  have absent : ∀ {β : Type} {g : Node → β} {f : String}, (childIn f [e]).map g = (childIn f []).map g := by
    intro β g f
    simp [childIn, comment.field]
  have calls : [e].flatMap (callsIn bytes) = [] := by
    simp [callsIn_of_callless comment.callless]
  have noArgument : [e].filter (fun c => c.info.isArgument) = [] := by
    simp [NodeInfo.isArgument, comment.extra]
  refine ⟨?_, fun _ => absent, fun _ => absent, fun _ => absent, fun _ => absent, calls⟩
  rw [noArgument, List.filter_nil]

theorem exchange_alike {c c' : Node} (alike : Alike bytes c c') (kind : String) :
    Exchange bytes kind [c] [c'] := by
  have field : c'.info.field = c.info.field := by rw [alike.info]
  have kinds : c'.kind = c.kind := congrArg NodeInfo.kind alike.info
  have span : c'.span = c.span := congrArg NodeInfo.span alike.info
  have spelled : identifier? bytes c' = identifier? bytes c := by rw [identifier?, identifier?, span]
  refine ⟨?_, ?_, ?_, ?_, ?_, ?_⟩
  · by_cases argument : c.info.isArgument
    · simp [alike.info, argument, alike.lowered]
    · simp [alike.info, argument]
  · exact fun f => map_childIn_singleton field fun _ => alike.lowered
  · refine fun _ => map_childIn_singleton field fun _ => ?_
    rw [propertyOf, propertyOf, kinds, spelled, alike.lowered]
  · exact fun _ => map_childIn_singleton field fun _ => spelled
  · refine fun _ => map_childIn_singleton field fun _ => ?_
    rw [listed, listed, kinds, alike.arguments]
  · simp [alike.calls]

theorem exchange_encloses {i : NodeInfo} {c w : Node} (enclosable : c.Enclosable i) (encloses : w.Encloses c) :
    Exchange bytes i.kind [c] [w] := by
  have lowered : lower bytes w = lower bytes c := lower_of_encloses encloses
  -- a callee, an object or an index is in no other field
  have elsewhere : ∀ {β : Type} {g : Node → β} {f : String}, c.info.field ≠ some f →
      (childIn f [w]).map g = (childIn f [c]).map g :=
    fun other => map_childIn_singleton encloses.field fun here => absurd here other
  refine ⟨?_, ?_, ?_, ?_, ?_, ?_⟩
  · have inner := encloses.argument
    have outer : w.info.isArgument := by simp [NodeInfo.isArgument, encloses.named, encloses.noExtra]
    simp [outer, inner, lowered]
  · exact fun f => map_childIn_singleton encloses.field fun _ => lowered
  · intro kind
    cases enclosable with
    | callee other => simp [kind] at other
    | object _ field => exact elsewhere (by simp [field])
    | index other => simp [kind] at other
    | argument other => simp [kind] at other
  · intro kind
    cases enclosable with
    | callee _ field => exact elsewhere (by simp [field])
    | object _ field => exact elsewhere (by simp [field])
    | index _ field => exact elsewhere (by simp [field])
    | argument other => simp [other, functionKinds] at kind
  · intro kind
    cases enclosable with
    | callee _ field => exact elsewhere (by simp [field])
    | object _ field => exact elsewhere (by simp [field])
    | index _ field => exact elsewhere (by simp [field])
    | argument other => simp [kind] at other
  · simp [callsIn_of_encloses encloses]

theorem alike_of_edit {t t' : Node} (edit : Edit t t') : Alike bytes t t' := by
  induction edit with
  | comment i front back comment => exact (exchange_comment comment i.kind).alike front back
  | enclose i front back enclosable encloses => exact (exchange_encloses enclosable encloses).alike front back
  | inside i front back _ ih => exact (exchange_alike ih i.kind).alike front back

theorem callsIn_of_edits {t t' : Node} (edits : Edits t t') : callsIn bytes t' = callsIn bytes t := by
  induction edits with
  | refl => rfl
  | tail _ edit ih => exact (alike_of_edit edit).calls.trans ih

/-! ### Another text -/

/-- The nodes whose text a lowering reads. -/
def IsName (n : Node) : Prop :=
  n.kind ∈ ["identifier", "property_identifier", "private_property_identifier"] ∨ n.info.field = some "name"

/-- The names of a tree are spelled alike in two texts. -/
def SameNames (bytes bytes' : ByteArray) (n : Node) : Prop :=
  ∀ m ∈ n.preorder, IsName m → slice bytes' m.span = slice bytes m.span

theorem SameNames.below {n m : Node} (same : SameNames bytes bytes' n) (inside : m ∈ n.preorder) :
    SameNames bytes bytes' m :=
  fun k deeper => same k (Node.preorder_trans inside deeper)

theorem SameNames.child {n c : Node} (same : SameNames bytes bytes' n) (child : c ∈ n.children) :
    SameNames bytes bytes' c :=
  same.below (Node.mem_preorder_of_child child c.self_mem_preorder)

theorem SameNames.identifier? {n : Node} (same : SameNames bytes bytes' n) (name : IsName n) :
    identifier? bytes' n = identifier? bytes n := by
  rw [Hook.identifier?, Hook.identifier?, same n n.self_mem_preorder name]

theorem map_childByField_congr {β : Type} {g g' : Node → β} {n : Node} {f : String}
    (same : ∀ c, n.childByField f = some c → g' c = g c) :
    (n.childByField f).map g' = (n.childByField f).map g := by
  cases found : n.childByField f with
  | none => rfl
  | some c => exact congrArg some (same c found)

theorem SameNames.propertyOf {n : Node} (same : SameNames bytes bytes' n)
    (lowered : lower bytes' n = lower bytes n) : propertyOf bytes' n = propertyOf bytes n := by
  unfold Hook.propertyOf
  split
  · rw [same.identifier? (Or.inl (by simp [*]))]
  · rw [same.identifier? (Or.inl (by simp [*]))]
  · rw [lowered]

/-- The expressions of a node and of its arguments in two texts. -/
def SameLowered (bytes bytes' : ByteArray) (n : Node) : Prop :=
  lower bytes' n = lower bytes n ∧ n.arguments.map (lower bytes') = n.arguments.map (lower bytes)

theorem SameNames.sameParts {n : Node} (same : SameNames bytes bytes' n)
    (below : ∀ c ∈ n.children, SameLowered bytes bytes' c) : SameParts bytes bytes' n n where
  kind := rfl
  span := rfl
  text kind := same.identifier? (Or.inl (by simp [kind]))
  arguments := List.map_congr_left fun c member => (below c (List.mem_filter.mp member).1).1
  lowered f := map_childByField_congr fun c found => (below c (Node.child_of_field found)).1
  property _ := map_childByField_congr fun c found =>
    (same.child (Node.child_of_field found)).propertyOf (below c (Node.child_of_field found)).1
  name _ := map_childByField_congr fun c found =>
    (same.child (Node.child_of_field found)).identifier? (Or.inr (by simpa using List.find?_some found))
  list _ := map_childByField_congr fun c found =>
    congrArg (Prod.mk c.kind) (below c (Node.child_of_field found)).2

theorem SameNames.lowered {n : Node} (same : SameNames bytes bytes' n) : SameLowered bytes bytes' n := by
  induction n using Node.inductionOnChildren with
  | step i cs ih =>
    have parts := same.sameParts fun c child => ih c child (same.child child)
    exact ⟨parts.lower_eq, parts.arguments⟩

theorem SameNames.callsIn {n : Node} (same : SameNames bytes bytes' n) :
    callsIn bytes' n = callsIn bytes n := by
  refine List.filterMap_congr fun m inside => ?_
  have names := same.below inside
  exact (names.sameParts fun c child => (names.child child).lowered).lowerCall?_eq

end HookLint.Hook
