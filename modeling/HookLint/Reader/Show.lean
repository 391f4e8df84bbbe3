import HookLint.Reader.Run
import HookLint.Tree.Node

/-!
The finished tree of a reading: hidden nodes give way to their children, labels and fields of the
productions are put on the nodes.
-/
namespace HookLint.Reader

open HookLint.Text HookLint.Grammar HookLint.Tree

/-- The steps of the production that a subtree was made by. -/
def stepsOf (p : Prepared) (i : Info) : Array Step :=
  match i.production.bind (p.productions[·]?) with
  | some q => q.steps
  | none => #[]

def withField (field : Option String) : Node → Node
  | .mk i cs => .mk { i with field := field.or i.field } cs

def fieldOnFirst (field : Option String) : List Node → List Node
  | [] => []
  | n :: ns => withField field n :: ns

def nodeInfo (a : Appearance) (field : Option String) (i : Info) : NodeInfo where
  kind := a.name
  named := a.named
  extra := i.extra
  isError := i.symbol == .error
  isMissing := i.missing
  hasError := i.errorCost > 0
  field := field
  span := .between i.start i.stop.place

mutual

/-- The nodes that a subtree shows, in front of `acc`. -/
def showTree (p : Prepared) (label : Option Label) (field : Option String) (acc : List Node) :
    Subtree → List Node
  | .node i cs =>
    let own := appearanceOf p i.symbol
    let a : Appearance := match label with
      | some l => ⟨l.name, true, l.named⟩
      | none => own
    let steps := stepsOf p i
    if a.shown then .mk (nodeInfo a field i) (showTrees p steps 0 [] cs) :: acc
    else if field.isNone then showTrees p steps 0 acc cs
    else fieldOnFirst field (showTrees p steps 0 [] cs) ++ acc

/-- The nodes that the children from structural position `n` on show, in front of `acc`. -/
def showTrees (p : Prepared) (steps : Array Step) (n : Nat) (acc : List Node) :
    List Subtree → List Node
  | [] => acc
  | .node i cs :: ts =>
    let step := if i.extra then none else steps[n]?
    let rest := showTrees p steps (if i.extra then n else n + 1) acc ts
    showTree p (step.bind (·.label)) (step.bind (·.field)) rest (.node i cs)

end

/-- The tree of a text. A text that no reading completes is one error. -/
def readTree (d : Dialect) (text : List Char) : Node :=
  match readText d text with
  | some (.node i cs) =>
    match showTree d.prepared none none [] (.node i cs) with
    | [n] => n
    | _ => .mk (nodeInfo ⟨"ERROR", true, true⟩ none { i with symbol := .error, errorCost := 1 }) []
  | none =>
    .mk { kind := "ERROR", named := true, isError := true, hasError := true
          span := .between Place.start (Place.start.afterAll text) } []

end HookLint.Reader
