import HookLint.Grammar.Corner
import HookLint.Text.Cursor

/-!
The trees that a reader builds. Every node knows what it costs to have skipped or supplied tokens
inside it, how many nodes it shows, and its weight; readings are compared by these.
-/
namespace HookLint.Reader

open HookLint.Text HookLint.Grammar

/-! ### Costs -/

/-- For each place where reading went on after an error. -/
def recoveryCost : Nat := 500
def missingCost : Nat := 110
def skippedTreeCost : Nat := 100
def skippedByteCost : Nat := 1
def skippedLineCost : Nat := 30

structure Info where
  symbol : Symbol
  production : Option Nat
  outset : Nat
  start : Place
  stop : Cursor
  extra : Bool
  missing : Bool
  keyword : Bool
  errorCost : Nat
  shownChildren : Nat
  shownDescendants : Nat
  weight : Int
deriving Inhabited

inductive Subtree where
  | node (info : Info) (children : List Subtree)

namespace Subtree

instance : Inhabited Subtree := ⟨.node default []⟩

def info : Subtree → Info
  | node i _ => i

def children : Subtree → List Subtree
  | node _ cs => cs

def symbol (t : Subtree) : Symbol := t.info.symbol
def extra (t : Subtree) : Bool := t.info.extra
def isError (t : Subtree) : Bool := t.info.symbol == .error
def isLeaf (t : Subtree) : Bool := t.children.isEmpty
def errorCost (t : Subtree) : Nat := t.info.errorCost
def weight (t : Subtree) : Int := t.info.weight
def isEnd (t : Subtree) : Bool := t.info.symbol == .token endToken

def totalBytes (t : Subtree) : Nat := t.info.stop.place.byte - t.info.outset

def setExtra (extra : Bool) : Subtree → Subtree
  | node i cs => node { i with extra } cs

def setSymbol (symbol : Symbol) : Subtree → Subtree
  | node i cs => node { i with symbol } cs

def addWeight (w : Int) : Subtree → Subtree
  | node i cs => node { i with weight := i.weight + w } cs

end Subtree

/-- How a symbol shows; a symbol that stands under one label only shows under it. -/
def appearanceOf (p : Prepared) (x : Symbol) : Appearance :=
  match p.defaultLabels[x]? with
  | some l => ⟨l.name, true, l.named⟩
  | none =>
    match x with
    | .token n => (p.tokens[n]?.map (·.appearance)).getD ⟨"", false, false⟩
    | .rule n =>
      match p.categories[n]? with
      | some v => ⟨v.name, v.shown, v.named⟩
      | none => ⟨"", false, false⟩
    | .skipped => ⟨"", false, false⟩
    | .error => ⟨"ERROR", true, true⟩

def isShown (p : Prepared) (t : Subtree) : Bool := (appearanceOf p t.symbol).shown

/-- Nodes that a subtree adds to the count of its version: what it shows, and runs of skipped
tokens, so that skipping counts as progress. -/
def nodeCount (p : Prepared) (t : Subtree) : Nat :=
  t.info.shownDescendants + (if isShown p t then 1 else 0) + (if t.symbol == .skipped then 1 else 0)

def leaf (symbol : Symbol) (outset : Nat) (start : Place) (stop : Cursor) (keyword : Bool) : Subtree :=
  .node { symbol, production := none, outset, start, stop
          extra := symbol == .token endToken, missing := false, keyword
          errorCost := 0, shownChildren := 0, shownDescendants := 0, weight := 0 } []

def missingLeaf (symbol : Symbol) (k : Cursor) : Subtree :=
  .node { symbol, production := none, outset := k.place.byte, start := k.place, stop := k
          extra := false, missing := true, keyword := false
          errorCost := missingCost + recoveryCost
          shownChildren := 0, shownDescendants := 0, weight := 0 } []

structure Tally where
  errorCost : Nat := 0
  shownChildren : Nat := 0
  shownDescendants : Nat := 0
  weight : Int := 0

def collectsErrors : Symbol → Bool
  | .error | .skipped => true
  | _ => false

/-- Adds the children from structural position `i` on; extras have no position. -/
def tally (p : Prepared) (owner : Symbol) (labels : Array Step) (i : Nat) (acc : Tally) :
    List Subtree → Tally
  | [] => acc
  | t :: ts =>
    let shown := isShown p t
    let own := if t.symbol == .skipped then 0 else t.errorCost
    let lost :=
      if collectsErrors owner && !t.extra && !(t.isError && t.isLeaf) then
        if shown then skippedTreeCost
        else if !t.isLeaf then skippedTreeCost * t.info.shownChildren
        else 0
      else 0
    let relabelled := !t.extra && !t.isEnd && ((labels[i]?).bind (·.label)).isSome
    let counted := relabelled || shown
    let acc : Tally := {
      errorCost := acc.errorCost + own + lost
      shownChildren := acc.shownChildren + (if counted then 1 else t.info.shownChildren)
      shownDescendants := acc.shownDescendants + t.info.shownDescendants + (if counted then 1 else 0)
      weight := acc.weight + t.weight }
    tally p owner labels (if t.extra then i else i + 1) acc ts

/-- A node over `children`; without children it is empty and stands at `k`. -/
def parent (p : Prepared) (symbol : Symbol) (production : Option Nat) (children : List Subtree)
    (k : Cursor) : Subtree :=
  let labels := match production.bind (p.productions[·]?) with
    | some q => q.steps
    | none => #[]
  let sum := tally p symbol labels 0 {} children
  let (outset, start) := match children with
    | [] => (k.place.byte, k.place)
    | c :: _ => (c.info.outset, c.info.start)
  let stop := match children.getLast? with
    | some c => c.info.stop
    | none => k
  let bytes := stop.place.byte - start.byte
  let rows := stop.place.row - start.row
  let own := if collectsErrors symbol then
      recoveryCost + skippedByteCost * bytes + skippedLineCost * rows else 0
  .node { symbol, production, outset, start, stop
          extra := false, missing := false, keyword := false
          errorCost := sum.errorCost + own
          shownChildren := sum.shownChildren
          shownDescendants := sum.shownDescendants
          weight := sum.weight } children

def splitExtras (ts : List Subtree) : List Subtree × List Subtree :=
  let back := ts.reverse
  ((back.dropWhile Subtree.extra).reverse, (back.takeWhile Subtree.extra).reverse)

mutual

/-- Orders trees by symbol, number of children, then child by child. -/
def compareTrees : Subtree → Subtree → Ordering
  | .node a as, .node b bs =>
    if a.symbol.isBefore b.symbol then .lt
    else if b.symbol.isBefore a.symbol then .gt
    else if as.length < bs.length then .lt
    else if bs.length < as.length then .gt
    else compareForests as bs

def compareForests : List Subtree → List Subtree → Ordering
  | a :: as, b :: bs =>
    match compareTrees a b with
    | .eq => compareForests as bs
    | o => o
  | _, _ => .eq

end

/-- The right reading is preferred: fewer errors, then more weight. Readings with equal errors are
taken as they come; readings without errors are ordered as trees. -/
def prefersRight (left right : Subtree) : Bool :=
  if right.errorCost < left.errorCost then true
  else if left.errorCost < right.errorCost then false
  else if right.weight > left.weight then true
  else if left.weight > right.weight then false
  else if left.errorCost > 0 then true
  else compareTrees left right == .gt

def equivalent (a b : Option Subtree) : Bool :=
  match a, b with
  | none, none => true
  | some a, some b =>
    a.symbol == b.symbol &&
      ((a.errorCost > 0 && b.errorCost > 0) ||
        (a.info.start.byte == b.info.start.byte && a.info.outset == b.info.outset
          && a.info.stop.place.byte == b.info.stop.place.byte
          && a.children.length == b.children.length && a.extra == b.extra))
  | _, _ => false

end HookLint.Reader
