import HookLint.Grammar.Corner

/-!
The states of a reader, made as they are needed.

A state is a set of kernel items with the tokens that may follow each. `target` moves a state over a
symbol and `decision` says what a token does in it: which productions end before it, and whether it
can be taken itself. Where both are possible the grammar's strengths and sides decide; what they
leave open stays open, and the reader follows every way.
-/
namespace HookLint.Reader

open HookLint.Grammar

/-- Items in ascending order, each with the tokens that may follow it. -/
abbrev Kernel := List (Nat × TokenSet)

def Kernel.add (item : Nat) (follow : TokenSet) : Kernel → Kernel
  | [] => [(item, follow)]
  | (i, f) :: k =>
    if item < i then (item, follow) :: (i, f) :: k
    else if item = i then (i, f.union follow) :: k
    else (i, f) :: Kernel.add item follow k

def validTokens (p : Prepared) (k : Kernel) : TokenSet :=
  k.foldl (fun s (i, follow) =>
    match p.items[i]? with
    | some info => s.union (if info.next.isSome then info.nextFirst else follow)
    | none => s) TokenSet.none

def Kernel.over (p : Prepared) (x : Symbol) (k : Kernel) : Kernel :=
  let productions := p.starting.getD x #[]
  k.foldl (fun acc (i, follow) =>
    match p.items[i]? with
    | none => acc
    | some info =>
      let acc := if info.next == some x then acc.add info.advanced follow else acc
      match info.next with
      | some (.rule b) =>
        let corners := p.corners.getD b #[]
        let outer := info.afterNext.getD follow
        productions.foldl (fun acc n =>
          match p.productions[n]? with
          | none => acc
          | some production =>
            match corners.getD production.head none with
            | some (inner, isOpen) =>
              acc.add (p.entered.getD n 0) (if isOpen then inner.union outer else inner)
            | none => acc) acc
      | _ => acc) []

/-- The hidden rule that every item of the kernel ends, when ending it leaves no trace. -/
def Kernel.tracelessHead? (p : Prepared) : Kernel → Option Nat
  | [] => none
  | (i, _) :: k =>
    match p.items[i]? with
    | none => none
    | some info =>
      if !info.traceless then none
      else if k.all fun (j, _) =>
          match p.items[j]? with
          | some other => other.traceless && other.head == info.head
          | none => false
        then some info.head else none

structure State where
  kernel : Kernel
  valid : TokenSet
deriving Inhabited

structure Reduction where
  production : Nat
  head : Nat
  size : Nat
  weight : Int
deriving Inhabited, BEq

structure Decision where
  reductions : List Reduction
  /-- The token can be taken; `some true` when only a repetition goes on with it. -/
  shift : Option Bool
  accepts : Bool
deriving Inhabited

/-- States made so far. State 0 is the lost state, state 1 the start. -/
structure Automaton where
  states : Array State
  ids : Std.HashMap Kernel Nat
  targets : Std.HashMap (Nat × Symbol) Nat
  decisions : Std.HashMap (Nat × Nat) Decision
deriving Inhabited

def lost : Nat := 0
def startState : Nat := 1

def Automaton.initial (p : Prepared) : Automaton :=
  let ending := TokenSet.single endToken
  let k : Kernel := [(p.startItem, ending)]
  let valid := validTokens p k
  { states := #[⟨[], .none⟩, ⟨k, if p.emptyProductions.isEmpty then valid else valid.union ending⟩]
    ids := (∅ : Std.HashMap Kernel Nat).insert k 1
    targets := ∅
    decisions := ∅ }

def Automaton.intern (p : Prepared) (m : Automaton) (k : Kernel) : Nat × Automaton :=
  match m.ids[k]? with
  | some n => (n, m)
  | none =>
    let n := m.states.size
    (n, { m with states := m.states.push ⟨k, validTokens p k⟩, ids := m.ids.insert k n })

def Automaton.kernel (m : Automaton) (state : Nat) : Kernel :=
  match m.states[state]? with
  | some s => s.kernel
  | none => []

def Automaton.valid (m : Automaton) (state : Nat) : TokenSet :=
  match m.states[state]? with
  | some s => s.valid
  | none => .none

/-- Where a symbol leads; 0 when it leads nowhere. States that only end a hidden rule are skipped. -/
def Automaton.target (p : Prepared) (fuel : Nat) (state : Nat) (x : Symbol) (m : Automaton) :
    Nat × Automaton :=
  match m.targets[(state, x)]? with
  | some n => (n, m)
  | none =>
    let k := (m.kernel state).over p x
    let (n, m) :=
      match k with
      | [] => (0, m)
      | _ =>
        match fuel, k.tracelessHead? p with
        | fuel + 1, some head => m.target p fuel state (.rule head)
        | _, _ => m.intern p k
    (n, { m with targets := m.targets.insert (state, x) n })

/-! ### Strengths -/

def Rank.matches (p : Prepared) (s : Strength) (heads : List Nat) : Rank → Bool
  | .strength n => s == .named n
  | .rule n => heads.any fun h =>
      match p.categories[h]? with
      | some v => v.name == n
      | none => false

/-- Compares along one ordering, whose first entries are strongest. -/
def compareAlong (left right : Rank → Bool) (sawLeft sawRight : Bool) : List Rank → Option Ordering
  | [] => none
  | r :: rs =>
    if left r then
      if sawRight then some .lt else compareAlong left right true sawRight rs
    else if right r then
      if sawLeft then some .gt else compareAlong left right sawLeft true rs
    else compareAlong left right sawLeft sawRight rs

def compareStrength (p : Prepared) (a : Strength) (aHeads : List Nat) (b : Strength)
    (bHeads : List Nat) : Ordering :=
  let along := (p.orderings.findSome?
    (compareAlong (Rank.matches p a aHeads) (Rank.matches p b bHeads) false false)).getD .eq
  match a, b with
  | .level m, .level n => if m != 0 || n != 0 then compare m n else along
  | .level m, .unset => if m != 0 then compare m 0 else along
  | .unset, .level n => if n != 0 then compare 0 n else along
  | _, _ => along

/-! ### Decisions -/

/-- The reductions found so far at one token, with what later ones are compared to. -/
structure Pending where
  reductions : Array Reduction
  strength : Strength
  heads : List Nat
  left : Bool
  right : Bool
  neither : Bool

def Pending.none : Pending := ⟨#[], .unset, [], false, false, false⟩

def Pending.note (q : Pending) (r : Reduction) (strength : Strength) (side : Option Side) : Pending :=
  { reductions := q.reductions.push r
    strength
    heads := if q.heads.contains r.head then q.heads else r.head :: q.heads
    left := q.left || side == some .left
    right := q.right || side == some .right
    neither := q.neither || side.isNone }

def Pending.offer (p : Prepared) (q : Pending) (r : Reduction) (strength : Strength)
    (side : Option Side) : Pending :=
  if q.reductions.isEmpty then q.note r strength side
  else
    match compareStrength p strength [r.head] q.strength q.heads with
    | .gt => Pending.none.note r strength side
    | .eq => q.note r strength side
    | .lt => q

def Reduction.isBefore (a b : Reduction) : Bool :=
  a.size < b.size || (a.size == b.size &&
    (a.head < b.head || (a.head == b.head && a.weight < b.weight)))

def insertSorted (e : Reduction × ItemInfo) : List (Reduction × ItemInfo) → List (Reduction × ItemInfo)
  | [] => [e]
  | d :: ds => if e.1.isBefore d.1 then e :: d :: ds else d :: insertSorted e ds

/-- The complete items at a token, those of empty productions included, in the order of items. -/
def completeItems (p : Prepared) (k : Kernel) (token : Nat) : List (Reduction × ItemInfo) :=
  let done := k.foldl (fun acc (i, follow) =>
    match p.items[i]? with
    | some info =>
      if info.next.isNone && follow.holds token then
        match p.productions[info.production]? with
        | some production =>
          insertSorted (⟨info.production, info.head, production.steps.size, production.weight⟩, info) acc
        | none => acc
      else acc
    | none => acc) []
  p.emptyProductions.foldl (fun acc n =>
    match p.productions[n]? with
    | none => acc
    | some production =>
      k.foldl (fun acc (i, follow) =>
        match p.items[i]? with
        | some info =>
          match info.next with
          | some (.rule b) =>
            match (p.corners.getD b #[]).getD production.head none with
            | some (inner, isOpen) =>
              let outer := info.afterNext.getD follow
              if (if isOpen then inner.union outer else inner).holds token then
                let empty : ItemInfo := {
                  production := n, head := production.head, dot := 0, strength := .unset, side := none
                  next := none, nextFirst := .none, afterNext := none, advanced := 0
                  traceless := false }
                (⟨n, production.head, 0, production.weight⟩, empty) :: acc
              else acc
            | none => acc
          | _ => acc
        | none => acc) acc) done

/-- The items that are in the middle and can go on with a token. -/
def continuing (p : Prepared) (k : Kernel) (token : Nat) : List ItemInfo :=
  k.filterMap fun (i, _) =>
    match p.items[i]? with
    | some info => if info.dot > 0 && info.next.isSome && info.nextFirst.holds token then some info else none
    | none => none

def isAuxiliary (p : Prepared) (head : Nat) : Bool :=
  match p.categories[head]? with
  | some v => v.auxiliary
  | none => false

def oneRepetition (p : Prepared) : List Nat → Bool
  | [] => false
  | h :: hs => isAuxiliary p h && hs.all (· == h)

def settleShift (p : Prepared) (q : Pending) (going : List ItemInfo) (doneHeads : List Nat) :
    List Reduction × Option Bool :=
  let all := q.reductions.toList
  let start := p.categories.size
  let heads := (going.map (·.head) ++ doneHeads).filter (· != start)
  if oneRepetition p heads then (all, some true)
  else
    let orders := going.map fun info => compareStrength p info.strength [info.head] q.strength q.heads
    let more := orders.contains .gt
    let less := orders.contains .lt
    if more && !less then ([], some false)
    else if less && !more then (all, none)
    else if !less && !more then
      match q.left, q.neither, q.right with
      | true, false, false => (all, none)
      | false, false, true => ([], some false)
      | _, _, _ => (all, some false)
    else (all, some false)

def decisionOf (p : Prepared) (k : Kernel) (valid : TokenSet) (token : Nat) : Decision :=
  if !valid.holds token then ⟨[], none, false⟩
  else
    let complete := completeItems p k token
    let canShift := k.any fun (i, _) =>
      match p.items[i]? with
      | some info => info.next.isSome && info.nextFirst.holds token
      | none => false
    let start := p.categories.size
    let accepts := complete.any (·.1.head == start)
    let q := complete.foldl (fun q (r, info) =>
      if r.head == start then q else q.offer p r info.strength info.side) Pending.none
    if q.reductions.isEmpty || !canShift then
      ⟨q.reductions.toList, if canShift then some false else none, accepts⟩
    else
      let (reductions, shift) := settleShift p q (continuing p k token) (complete.map (·.1.head))
      ⟨reductions, shift, accepts⟩

def Automaton.decision (p : Prepared) (state token : Nat) (m : Automaton) : Decision × Automaton :=
  match m.decisions[(state, token)]? with
  | some d => (d, m)
  | none =>
    let d := decisionOf p (m.kernel state) (m.valid state) token
    (d, { m with decisions := m.decisions.insert (state, token) d })

/-! ### Words -/

/-- A keyword is reserved where a word is expected and nothing admits every word. -/
def reservedIn (p : Prepared) (valid : TokenSet) (token : Nat) : Bool :=
  p.reserved.holds token && valid.holds wordToken && !valid.holds p.mark

end HookLint.Reader
