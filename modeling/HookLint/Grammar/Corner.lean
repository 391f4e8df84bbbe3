import HookLint.Grammar.Production
import HookLint.Grammar.TokenSet
import Std.Data.HashMap

/-!
What a rule can begin with. `first` holds the tokens that a rule's texts start with; `corners` holds,
for each rule, every rule that can stand at its left edge, together with the tokens that can follow
there.

One number above the tokens marks that a word begins where no word is reserved.
-/
namespace HookLint.Grammar

/-- The marker above the tokens: some word that starts here is not reserved. -/
abbrev anyWordMark (f : Flat) : Nat := f.tokens.size

def Step.first (mark : Nat) (first : Array TokenSet) (s : Step) : TokenSet :=
  match s.symbol with
  | .token n =>
    if s.anyWord && n == wordToken then (TokenSet.single n).insert mark else TokenSet.single n
  | .rule v => first.getD v .none
  | _ => .none

/-- One round of the first sets: each rule takes what its productions' first steps begin with. -/
def Flat.firstRound (f : Flat) (first : Array TokenSet) : Array TokenSet :=
  f.productions.zipIdx.foldl (fun acc (ps, v) =>
    acc.modify v fun s =>
      ps.foldl (fun s p =>
        match p.steps[0]? with
        | some step => s.union (step.first (anyWordMark f) first)
        | none => s) s) first

def settle {α : Type} [BEq α] (step : α → α) (fuel : Nat) (x : α) : α :=
  match fuel with
  | 0 => x
  | fuel + 1 =>
    let y := step x
    if y == x then x else settle step fuel y

def Flat.first (f : Flat) : Array TokenSet :=
  settle f.firstRound (f.categories.size + 1) (.replicate f.categories.size .none)

/-- A rule at a left edge: what follows it inside, and whether what follows the outer rule does. -/
structure Corner where
  rule : Nat
  inner : TokenSet
  isOpen : Bool
deriving BEq, Inhabited

def addCorner (c : Corner) : List Corner → List Corner
  | [] => [c]
  | d :: ds =>
    if d.rule == c.rule then ⟨d.rule, d.inner.union c.inner, d.isOpen || c.isOpen⟩ :: ds
    else d :: addCorner c ds

def Flat.edges (f : Flat) (first : Array TokenSet) (v : Nat) : List Corner :=
  (f.productions.getD v []).foldl (fun acc p =>
    match p.steps.toList with
    | ⟨.rule w, _, _, _, _, _⟩ :: rest =>
      let inner := (rest.head?.map (·.first (anyWordMark f) first)).getD .none
      addCorner ⟨w, inner, rest.isEmpty⟩ acc
    | _ => acc) []

abbrev CornerTable := Array (Option (TokenSet × Bool))

/-- Takes an edge from a rule that is reached with `inner` and `isOpen`. -/
def follow (inner : TokenSet) (isOpen : Bool) (e : Corner) : TokenSet × Bool :=
  if e.isOpen then (e.inner.union inner, isOpen) else (e.inner, false)

/-- Adds what is reached from the rules in `todo`; a rule whose entry changes is visited again. -/
def spread (edges : Array (List Corner)) (fuel : Nat) (todo : List Nat) (t : CornerTable) :
    CornerTable :=
  match fuel, todo with
  | 0, _ | _, [] => t
  | fuel + 1, v :: todo =>
    match t.getD v none with
    | none => spread edges fuel todo t
    | some (inner, isOpen) =>
      let (todo, t) := (edges.getD v []).foldl (fun (todo, t) e =>
        let (i, o) := follow inner isOpen e
        match t.getD e.rule none with
        | none => (e.rule :: todo, t.setIfInBounds e.rule (some (i, o)))
        | some (i₀, o₀) =>
          let i₁ := i₀.union i
          let o₁ := o₀ || o
          if i₁ == i₀ && o₁ == o₀ then (todo, t)
          else (e.rule :: todo, t.setIfInBounds e.rule (some (i₁, o₁)))) (todo, t)
      spread edges fuel todo t

def cornersOf (edges : Array (List Corner)) (v : Nat) : CornerTable :=
  spread edges (edges.size * 200 + 1000) [v]
    ((Array.replicate edges.size none).setIfInBounds v (some (.none, true)))

/-! ### Items -/

structure Item where
  production : Nat
  dot : Nat
deriving BEq, Hashable, Repr, Inhabited

/-- What tells two items apart: of the steps behind the mark only labels and fields count. -/
structure ItemKey where
  head : Nat
  dot : Nat
  weight : Int
  size : Nat
  strength : Strength
  side : Option Side
  behind : List (Option Label × Option String)
  ahead : List Step
deriving BEq, Hashable

def Production.strengthAt (p : Production) (dot : Nat) : Strength :=
  match dot with
  | 0 => .unset
  | d + 1 => (p.steps[d]?.map (·.strength)).getD .unset

def Production.sideAt (p : Production) (dot : Nat) : Option Side :=
  match dot with
  | 0 => none
  | d + 1 => (p.steps[d]?).bind (·.side)

def Production.keyAt (p : Production) (dot : Nat) : ItemKey :=
  { head := p.head, dot, weight := p.weight, size := p.steps.size
    strength := p.strengthAt dot, side := p.sideAt dot
    behind := (p.steps.extract 0 dot).toList.map fun s => (s.label, s.field)
    ahead := (p.steps.extract dot p.steps.size).toList }

/-- An item class: items that are equal from here on are one. -/
structure ItemInfo where
  production : Nat
  head : Nat
  dot : Nat
  strength : Strength
  side : Option Side
  next : Option Symbol
  nextFirst : TokenSet
  /-- What can follow the next step inside the production; none when the production ends there. -/
  afterNext : Option TokenSet
  advanced : Nat
  /-- Complete, and its reduction leaves no trace in a tree. -/
  traceless : Bool
deriving Inhabited

structure Prepared where
  tokens : Array Token
  categories : Array Category
  productions : Array Production
  first : Array TokenSet
  corners : Array CornerTable
  items : Array ItemInfo
  /-- Item of each production with the mark behind its first step. -/
  entered : Array Nat
  starting : Std.HashMap Symbol (Array Nat)
  emptyProductions : Array Nat
  /-- The only item of the start state: the start rule, expected whole. -/
  startItem : Nat
  startProduction : Nat
  /-- Names shown where a symbol stands under one label only. -/
  defaultLabels : Std.HashMap Symbol Label
  blanks : HookLint.Text.CharSet
  extras : TokenSet
  keywords : Std.HashMap String Nat
  keywordSet : TokenSet
  reserved : TokenSet
  layout : List (String × Nat)
  /-- What the scanner accepts while the reader is lost. -/
  recoverySet : TokenSet
  orderings : List (List Rank)

def Prepared.mark (p : Prepared) : Nat := p.tokens.size

/-! ### Labels -/

/-- The label under which a symbol stands most often, unless it also stands without one. -/
def defaultLabel (uses : List (Option Label)) : Option Label :=
  if uses.any (·.isNone) then none
  else
    let labels := uses.filterMap id
    let counted := (distinct labels).map fun l => (l, labels.count l)
    counted.foldl (fun best (l, n) =>
      match best with
      | some (_, m) => if n > m then some (l, n) else best
      | none => some (l, n)) none |>.map (·.1)

/-! ### Tokens the scanner prefers not to look for when lost -/

def isWordText (s : String) : Bool := s.all fun c => c.isAlpha || c == '_'

/-- The step without a label that its symbol shows anyway. -/
def Step.dropLabel (defaults : Std.HashMap Symbol Label) (s : Step) : Step :=
  if s.label.isSome && s.label == defaults[s.symbol]? then { s with label := none } else s

/-- The label of each symbol that stands under one. Tokens that may stand anywhere have none. -/
def labelTable (extras : TokenSet) (productions : Array Production) : Std.HashMap Symbol Label :=
  let uses := productions.foldl (fun (acc : Std.HashMap Symbol (List (Option Label))) p =>
    p.steps.foldl (fun acc s => acc.insert s.symbol (s.label :: acc.getD s.symbol [])) acc) ∅
  uses.fold (fun (acc : Std.HashMap Symbol Label) symbol labels =>
    let isExtra := match symbol with
      | .token n => extras.holds n
      | _ => false
    match isExtra, defaultLabel labels.reverse with
    | false, some l => acc.insert symbol l
    | _, _ => acc) ∅

/-- A reduction to a hidden rule of a single unlabelled step leaves no trace in a tree. -/
def Production.isTraceless (categories : Array Category) (supertypes : List String)
    (labelled : Symbol → Bool) (p : Production) : Bool :=
  match p.steps.toList, categories[p.head]? with
  | [s], some v =>
    s.label.isNone && s.field.isNone && p.weight == 0 && !v.named && !supertypes.contains v.name
      && !labelled (.rule p.head)
  | _, _ => false

def Ruleset.prepare (g : Ruleset) : Prepared :=
  let f := g.flat
  let mark := anyWordMark f
  let first := f.first
  let edges := (Array.range f.categories.size).map (f.edges first)
  let corners := (Array.range f.categories.size).map (cornersOf edges)
  let tokenNamed (name : String) : Option Nat :=
    f.tokens.findIdx? fun t => t.appearance.name == name && (t.appearance.named || isHiddenName name)
  let extras := g.extras.foldl (fun s name =>
    match tokenNamed name with
    | some n => s.insert n
    | none => s) TokenSet.none
  -- the production of the start rule as a whole comes last
  let written := f.productions.foldl (fun acc ps => ps.foldl Array.push acc) #[]
  let labels := labelTable extras written
  let all := written.map fun p => { p with steps := p.steps.map (·.dropLabel labels) }
  let labelledSteps := all.foldl (fun (acc : Std.HashMap Symbol Unit) p =>
    p.steps.foldl (fun acc s => if s.label.isSome then acc.insert s.symbol () else acc) acc) ∅
  let labelled (s : Symbol) : Bool := labels.contains s || labelledSteps.contains s
  let start : Production := ⟨f.categories.size, #[⟨.rule 0, .unset, none, none, none, false⟩], 0⟩
  let productions := all.push start
  let (items, ids) := productions.zipIdx.foldl (fun acc (p, n) =>
    (List.range (p.steps.size + 1)).foldl (fun (items, ids) dot =>
      let key := p.keyAt dot
      if ids.contains key then (items, ids)
      else
        let info : ItemInfo := {
          production := n, head := p.head, dot
          strength := p.strengthAt dot, side := p.sideAt dot
          next := p.steps[dot]?.map (·.symbol)
          nextFirst := (p.steps[dot]?.map (·.first mark first)).getD .none
          afterNext := p.steps[dot + 1]?.map (·.first mark first)
          advanced := 0
          traceless := dot == p.steps.size && p.isTraceless f.categories g.supertypes labelled }
        (items.push info, ids.insert key items.size)) acc)
    ((#[] : Array ItemInfo), (∅ : Std.HashMap ItemKey Nat))
  let idOf (n dot : Nat) : Nat :=
    match productions[n]? with
    | some p => ids.getD (p.keyAt dot) 0
    | none => 0
  let items := items.map fun i => { i with advanced := idOf i.production (i.dot + 1) }
  let starting := productions.zipIdx.foldl (fun (acc : Std.HashMap Symbol (Array Nat)) (p, n) =>
    match p.steps[0]? with
    | some s =>
      if n + 1 == productions.size then acc
      else acc.insert s.symbol ((acc.getD s.symbol #[]).push n)
    | none => acc) ∅
  let empties := productions.zipIdx.filterMap fun (p, n) => if p.steps.isEmpty then some n else none
  let wordPattern := match f.tokens[wordToken]? with
    | some ⟨_, some x⟩ => x.pattern
    | _ => .none
  let keywords := f.tokens.zipIdx.foldl (fun (acc : Std.HashMap String Nat) (t, n) =>
    match t.lexeme with
    | some ⟨_, some s, 0, false⟩ =>
      if isWordText s && wordPattern.accepts s.toList then acc.insert s n else acc
    | _ => acc) ∅
  let inPlace := g.onlyInPlace.map f.names.resolve
  let keywordSet := keywords.fold (fun s _ n => s.insert n) TokenSet.none
  { tokens := f.tokens
    categories := f.categories
    productions
    first
    corners
    items
    entered := (Array.range productions.size).map fun n => idOf n 1
    starting
    emptyProductions := empties
    startItem := idOf all.size 0
    startProduction := all.size
    defaultLabels := labels
    blanks := g.blanks
    extras
    keywords
    keywordSet
    reserved := g.reserved.foldl (fun s name =>
      match keywords[name]? with
      | some n => s.insert n
      | none => s) TokenSet.none
    layout := g.layout.filterMap fun t =>
      match t.ordinary with
      | some leaf =>
        match f.names.resolve leaf with
        | .token n => some (t.name, n)
        | _ => none
      | none => (tokenNamed t.name).map (t.name, ·)
    recoverySet := f.tokens.zipIdx.foldl (fun s (t, n) =>
      if t.lexeme.isSome && !inPlace.contains (.token n) then s.insert n else s)
      (TokenSet.single endToken)
    orderings := g.orderings }

end HookLint.Grammar
