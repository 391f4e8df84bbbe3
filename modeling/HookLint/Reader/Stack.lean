import HookLint.Reader.Subtree

/-!
The stack of a reader that follows several ways at once. Nodes are shared: a node has a link for each
way into it, and versions that reach one state at one place at one cost are merged.
-/
namespace HookLint.Reader

open HookLint.Text HookLint.Grammar

/-- The way from a node down to an earlier one. No tree marks the place where reading got lost. -/
structure Link where
  node : Nat
  tree : Option Subtree
deriving Inhabited

structure StackNode where
  state : Nat
  place : Cursor
  links : List Link
  errorCost : Nat
  nodeCount : Nat
  weight : Int
deriving Inhabited

structure SummaryEntry where
  place : Place
  depth : Nat
  state : Nat

inductive Status where
  | active
  | paused
  | halted
deriving DecidableEq, Inhabited

structure Version where
  node : Nat
  summary : Option (List SummaryEntry)
  /-- The node count when the version last met an error. -/
  countAtError : Nat
  status : Status
  /-- The token at which the version was paused. -/
  waiting : Option Subtree
deriving Inhabited

structure Stack where
  nodes : Array StackNode
  versions : Array Version
deriving Inhabited

/-- Trees popped off a version; the version stands where the trees began. -/
structure Slice where
  trees : List Subtree
  version : Nat
deriving Inhabited

def maxLinks : Nat := 8
def maxIterators : Nat := 64

namespace Stack

def initial (start : Nat) (k : Cursor) : Stack where
  nodes := #[⟨start, k, [], 0, 0, 0⟩]
  versions := #[⟨0, none, 0, .active, none⟩]

def node (s : Stack) (n : Nat) : StackNode := s.nodes.getD n default

def version (s : Stack) (v : Nat) : Version := s.versions.getD v default

def top (s : Stack) (v : Nat) : StackNode := s.node (s.version v).node

def state (s : Stack) (v : Nat) : Nat := (s.top v).state

def place (s : Stack) (v : Nat) : Cursor := (s.top v).place

def count (s : Stack) : Nat := s.versions.size

def isActive (s : Stack) (v : Nat) : Bool := (s.version v).status == .active

def isHalted (s : Stack) (v : Nat) : Bool := (s.version v).status == .halted

def isPaused (s : Stack) (v : Nat) : Bool := (s.version v).status == .paused

def haltedCount (s : Stack) : Nat := s.versions.foldl (fun n v => if v.status == .halted then n + 1 else n) 0

def modifyVersion (s : Stack) (v : Nat) (f : Version → Version) : Stack :=
  { s with versions := s.versions.modify v f }

def halt (s : Stack) (v : Nat) : Stack := s.modifyVersion v fun x => { x with status := .halted }

def remove (s : Stack) (v : Nat) : Stack := { s with versions := s.versions.eraseIdxIfInBounds v }

/-- Puts version `a` in the place of version `b`. A summary of `b` is kept if `a` has none. -/
def renumber (s : Stack) (a b : Nat) : Stack :=
  if a == b then s
  else
    let source := s.version a
    let target := s.version b
    let source := if source.summary.isNone then { source with summary := target.summary } else source
    { s with versions := (s.versions.setIfInBounds b source).eraseIdxIfInBounds a }

def swap (s : Stack) (a b : Nat) : Stack := { s with versions := s.versions.swapIfInBounds a b }

def copy (s : Stack) (v : Nat) : Nat × Stack :=
  (s.count, { s with versions := s.versions.push { s.version v with summary := none } })

def pause (s : Stack) (v : Nat) (token : Subtree) : Stack :=
  let nodeCount := (s.top v).nodeCount
  s.modifyVersion v fun x =>
    { x with status := .paused, waiting := some token, countAtError := nodeCount }

def resume (s : Stack) (v : Nat) : Option Subtree × Stack :=
  ((s.version v).waiting, s.modifyVersion v fun x => { x with status := .active, waiting := none })

def push (p : Prepared) (s : Stack) (v : Nat) (tree : Option Subtree) (state : Nat) : Stack :=
  let below := (s.version v).node
  let old := s.node below
  let new : StackNode :=
    match tree with
    | some t => ⟨state, t.info.stop, [⟨below, tree⟩], old.errorCost + t.errorCost,
        old.nodeCount + nodeCount p t, old.weight + t.weight⟩
    | none => ⟨state, old.place, [⟨below, none⟩], old.errorCost, old.nodeCount, old.weight⟩
  let n := s.nodes.size
  let s := { s with nodes := s.nodes.push new }
  s.modifyVersion v fun x =>
    { x with node := n, countAtError := if tree.isNone then new.nodeCount else x.countAtError }

/-! ### Merging -/

def linkWeight (s : Stack) (l : Link) : Int :=
  (s.node l.node).weight + (l.tree.map Subtree.weight).getD 0

/-- Adds a way into node `n`; equal ways are joined, and so are the nodes behind equal trees. -/
def addLink (p : Prepared) (fuel : Nat) (n : Nat) (l : Link) (s : Stack) : Stack :=
  match fuel with
  | 0 => s
  | fuel + 1 =>
    if l.node == n then s
    else
      let self := s.node n
      let other := s.node l.node
      let same := self.links.findSome? fun (e : Link) =>
        if !equivalent e.tree l.tree then none
        else if e.node == l.node then some (e, true)
        else
          let there := s.node e.node
          if there.state == other.state && there.place.place.byte == other.place.place.byte
              && there.errorCost == other.errorCost then some (e, false)
          else none
      match same with
      | some (e, true) =>
        let heavier : Bool := match l.tree, e.tree with
          | some a, some b => decide (b.weight < a.weight)
          | _, _ => false
        if heavier then
          let links := self.links.map fun (d : Link) =>
            if d.node == e.node && equivalent d.tree l.tree then { d with tree := l.tree } else d
          { s with nodes := s.nodes.modify n fun x => { x with links, weight := s.linkWeight l } }
        else s
      | some (e, false) =>
        let s := other.links.foldl (fun s link => addLink p fuel e.node link s) s
        let weight := s.linkWeight l
        { s with nodes := s.nodes.modify n fun x =>
            if weight > x.weight then { x with weight } else x }
      | none =>
        if self.links.length == maxLinks then s
        else
          let added := other.nodeCount + (l.tree.map (nodeCount p)).getD 0
          let weight := s.linkWeight l
          { s with nodes := s.nodes.modify n fun x => { x with
              links := x.links ++ [l]
              nodeCount := if added > x.nodeCount then added else x.nodeCount
              weight := if weight > x.weight then weight else x.weight } }

def canMerge (s : Stack) (a b : Nat) : Bool :=
  let x := s.top a
  let y := s.top b
  s.isActive a && s.isActive b && x.state == y.state
    && x.place.place.byte == y.place.place.byte && x.errorCost == y.errorCost

def merge (p : Prepared) (s : Stack) (a b : Nat) : Bool × Stack :=
  if !s.canMerge a b then (false, s)
  else
    let target := (s.version a).node
    let s := (s.top b).links.foldl (fun s l => addLink p 10000 target l s) s
    let node := s.node target
    let s := if node.state == 0 then
        s.modifyVersion a fun x => { x with countAtError := node.nodeCount }
      else s
    (true, s.remove b)

/-! ### What a version cost so far -/

def errorCost (s : Stack) (v : Nat) : Nat :=
  let top := s.top v
  let justLost := top.state == 0 && (match top.links with
    | l :: _ => l.tree.isNone
    | [] => true)
  top.errorCost + (if s.isPaused v || justLost then recoveryCost else 0)

/-- Nodes since the last error. A count that fell below the noted one becomes the noted one. -/
def progress (s : Stack) (v : Nat) : Nat :=
  (s.top v).nodeCount - (s.version v).countAtError

def noteProgress (s : Stack) (v : Nat) : Stack :=
  let nodeCount := (s.top v).nodeCount
  s.modifyVersion v fun x =>
    if nodeCount < x.countAtError then { x with countAtError := nodeCount } else x

/-- The version has taken text since its last error. -/
def hasAdvanced (s : Stack) (v : Nat) : Bool :=
  let top := s.top v
  if top.errorCost == 0 then true
  else go (s.version v).countAtError s.nodes.size top
where
  go (countAtError : Nat) (fuel : Nat) (node : StackNode) : Bool :=
    match fuel, node.links with
    | fuel + 1, ⟨below, some t⟩ :: _ =>
      if t.totalBytes > 0 then true
      else if node.nodeCount > countAtError && t.errorCost == 0 then
        go countAtError fuel (s.node below)
      else false
    | _, _ => false

/-! ### Popping -/

/-- A walk down the stack: the node it is at, the trees on the way (last met first pushed down), and
how many of them are not extras. -/
structure Walk where
  node : Nat
  trees : List Subtree
  depth : Nat
deriving Inhabited

structure WalkAction where
  pop : Bool
  stop : Bool

def Walk.down (w : Walk) (l : Link) : Walk :=
  match l.tree with
  | some t => ⟨l.node, t :: w.trees, if t.extra then w.depth else w.depth + 1⟩
  | none => ⟨l.node, w.trees, w.depth + 1⟩

/-- Notes the trees of a walk: with an earlier slice that ended at the same node, else as a new
version. -/
def addSlice (original : Nat) (w : Walk) (slices : Array Slice) (s : Stack) : Array Slice × Stack :=
  let found := (List.range slices.size).reverse.find? fun i =>
    (s.version (slices.getD i default).version).node == w.node
  match found with
  | some i =>
    let v := (slices.getD i default).version
    (slices.insertIdxIfInBounds (i + 1) ⟨w.trees, v⟩, s)
  | none =>
    let v := s.count
    let version : Version :=
      { node := w.node, summary := none, countAtError := (s.version original).countAtError
        status := .active, waiting := none }
    (slices.push ⟨w.trees, v⟩, { s with versions := s.versions.push version })

/-- One round over the walks that were there when it began. Each walk is popped, stopped, or moved
down its first link, and copies of it down the others. -/
def popRound (original : Nat) (judge : Walk → WalkAction) (i limit fuel : Nat) (walks : Array Walk)
    (slices : Array Slice) (s : Stack) : Array Walk × Array Slice × Stack :=
  match fuel with
  | 0 => (walks, slices, s)
  | fuel + 1 =>
    if i ≥ limit then (walks, slices, s)
    else
      let w := walks.getD i default
      let links := (s.node w.node).links
      let action := judge w
      let (slices, s) := if action.pop then addSlice original w slices s else (slices, s)
      if action.stop || links.isEmpty then
        popRound original judge i (limit - 1) fuel (walks.eraseIdxIfInBounds i) slices s
      else
        let walks := (links.drop 1).foldl (fun walks l =>
          if walks.size ≥ maxIterators then walks else walks.push (w.down l)) walks
        let walks := match links with
          | l :: _ => walks.setIfInBounds i (w.down l)
          | [] => walks
        popRound original judge (i + 1) limit fuel walks slices s

def popLoop (original : Nat) (judge : Walk → WalkAction) (fuel : Nat) (walks : Array Walk)
    (slices : Array Slice) (s : Stack) : Array Slice × Stack :=
  match fuel with
  | 0 => (slices, s)
  | fuel + 1 =>
    if walks.isEmpty then (slices, s)
    else
      let (walks, slices, s) := popRound original judge 0 walks.size (walks.size + 1) walks slices s
      popLoop original judge fuel walks slices s

def popWith (s : Stack) (v : Nat) (judge : Walk → WalkAction) : List Slice × Stack :=
  let (slices, s) := popLoop v judge (s.nodes.size + 1) #[⟨(s.version v).node, [], 0⟩] #[] s
  (slices.toList, s)

def popCount (s : Stack) (v n : Nat) : List Slice × Stack :=
  s.popWith v fun w => if w.depth == n then ⟨true, true⟩ else ⟨false, false⟩

def popAll (s : Stack) (v : Nat) : List Slice × Stack :=
  s.popWith v fun w => if (s.node w.node).links.isEmpty then ⟨true, true⟩ else ⟨false, false⟩

def popError (s : Stack) (v : Nat) : Option Subtree × Stack :=
  let links := (s.top v).links
  match links.find? (fun (l : Link) => (l.tree.map Subtree.isError).getD false) with
  | some l =>
    let version : Version :=
      { node := l.node, summary := none, countAtError := (s.version v).countAtError
        status := .active, waiting := none }
    let n := s.count
    let s := { s with versions := s.versions.push version }
    (l.tree, s.renumber n v)
  | none => (none, s)

/-! ### Summaries -/

/-- Whether a state at a depth is already in a summary, which is given last entry first. -/
def alreadyNoted (depth state : Nat) : List SummaryEntry → Bool
  | [] => false
  | e :: es =>
    if e.depth < depth then false
    else (e.depth == depth && e.state == state) || alreadyNoted depth state es

/-- The states down to `maxDepth`, nearest first; breadth first over all ways. -/
def summarize (s : Stack) (maxDepth fuel : Nat) (walks : List (Nat × Nat)) (acc : List SummaryEntry) :
    List SummaryEntry :=
  match fuel with
  | 0 => acc.reverse
  | fuel + 1 =>
    match walks with
    | [] => acc.reverse
    | _ =>
      let acc := walks.foldl (fun acc (n, depth) =>
        let node := s.node n
        if depth > maxDepth || alreadyNoted depth node.state acc then acc
        else ⟨node.place.place, depth, node.state⟩ :: acc) acc
      let living := walks.filter fun (n, depth) => depth ≤ maxDepth && !(s.node n).links.isEmpty
      let step (depth : Nat) (l : Link) : Nat × Nat :=
        (l.node, match l.tree with
          | some t => if t.extra then depth else depth + 1
          | none => depth + 1)
      let firsts := living.filterMap fun (n, depth) => ((s.node n).links.head?).map (step depth)
      let others := living.flatMap fun (n, depth) => ((s.node n).links.drop 1).map (step depth)
      summarize s maxDepth fuel ((firsts ++ others).take maxIterators) acc

def recordSummary (s : Stack) (v maxDepth : Nat) : Stack :=
  let entries := s.summarize maxDepth (s.nodes.size + 1) [((s.version v).node, 0)] []
  s.modifyVersion v fun x => { x with summary := some entries }

end Stack

end HookLint.Reader
