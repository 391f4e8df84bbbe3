import HookLint.Reader.Token

/-!
Reading a text. Versions of the stack are advanced token by token; where grammar rules stay open a
version splits, and where versions meet they merge. A version that meets a token it cannot use waits;
when no better version goes on, it supplies a missing token or skips what does not fit, at a cost. The
cheapest complete reading is the result.
-/
namespace HookLint.Reader

open HookLint.Text HookLint.Grammar

def maxVersions : Nat := 6
def versionOverflow : Nat := 4
def maxCostDifference : Nat := 18 * skippedTreeCost
def summaryDepth : Nat := 16

/-! ### Comparing versions -/

structure Standing where
  cost : Nat
  progress : Nat
  weight : Int
  inError : Bool

inductive Preference where
  | takeLeft
  | preferLeft
  | undecided
  | preferRight
  | takeRight
deriving DecidableEq

def compareStandings (a b : Standing) : Preference :=
  if !a.inError && b.inError then if a.cost < b.cost then .takeLeft else .preferLeft
  else if a.inError && !b.inError then if b.cost < a.cost then .takeRight else .preferRight
  else if a.cost < b.cost then
    if (b.cost - a.cost) * (1 + a.progress) > maxCostDifference then .takeLeft else .preferLeft
  else if b.cost < a.cost then
    if (a.cost - b.cost) * (1 + b.progress) > maxCostDifference then .takeRight else .preferRight
  else if a.weight > b.weight then .preferLeft
  else if b.weight > a.weight then .preferRight
  else .undecided

def standing (v : Nat) : Reading Standing := do
  onStack (·.noteProgress v)
  askStack fun s =>
    let paused := s.isPaused v
    { cost := s.errorCost v + (if paused then skippedTreeCost else 0)
      progress := s.progress v
      weight := (s.top v).weight
      inError := paused || s.state v == lost }

/-- Some other version would make one of this cost pointless. -/
def betterExists (v : Nat) (inError : Bool) (cost : Nat) : Reading Bool := do
  match (← get).finished with
  | some t => if t.errorCost ≤ cost then return true
  | none => pure ()
  onStack (·.noteProgress v)
  let mine ← askStack fun s =>
    ({ cost, progress := s.progress v, weight := (s.top v).weight, inError } : Standing)
  let place ← askStack fun s => (s.place v).place.byte
  let count ← askStack (·.count)
  for i in List.range count do
    let candidate ← askStack fun s => i != v && s.isActive i && (s.place i).place.byte ≥ place
    if candidate then
      match compareStandings mine (← standing i) with
      | .takeRight => return true
      | .preferRight => if ← askStack (·.canMerge i v) then return true
      | _ => pure ()
  return false

/-! ### Ending productions -/

def groupSlices : List Slice → List (Nat × List (List Subtree))
  | [] => []
  | s :: rest =>
    match groupSlices rest with
    | (v, ts) :: gs => if v == s.version then (v, s.trees :: ts) :: gs else (s.version, [s.trees]) :: (v, ts) :: gs
    | [] => [(s.version, [s.trees])]

/-- Of several rows of children the preferred one, with the extras behind it. -/
def chooseChildren (p : Prepared) (r : Reduction) (k : Cursor) (first : List Subtree)
    (others : List (List Subtree)) : Subtree × List Subtree :=
  let build (ts : List Subtree) : Subtree := parent p (.rule r.head) (some r.production) ts k
  let (kids, extras) := splitExtras first
  others.foldl (fun (best, extras) ts =>
    let (kids', extras') := splitExtras ts
    if prefersRight best (parent p (.rule r.head) none kids' k) then (build kids', extras')
    else (best, extras)) (build kids, extras)

/-- Merges version `v` into the first earlier version that fits, other than `except`. -/
def mergeDown (p : Prepared) (except v : Nat) : List Nat → Reading Bool
  | [] => return false
  | j :: js => do
    if j == except then mergeDown p except v js
    else if ← withStack (·.merge p j v) then return true
    else mergeDown p except v js

/-- Ends a production on version `v` along every way; gives the first version that this made. -/
def reduceVersion (d : Dialect) (v : Nat) (r : Reduction) : Reading (Option Nat) := do
  let p := d.prepared
  let before ← askStack (·.count)
  let slices ← withStack fun s => s.popCount v r.size
  let halted ← askStack (·.haltedCount)
  let mut removed := 0
  for (version, rows) in groupSlices slices do
    let version := version - removed
    if version > maxVersions + versionOverflow + halted then
      onStack (·.remove version)
      removed := removed + 1
    else
      match rows with
      | [] => pure ()
      | first :: others =>
        let k ← askStack (·.place version)
        let (tree, extras) := chooseChildren p r k first others
        let state ← askStack (·.state version)
        let target ← targetOf d state (.rule r.head)
        onStack (·.push p version (some (tree.addWeight r.weight)) target)
        for e in extras do
          onStack (·.push p version (some e) target)
        if ← mergeDown p v version (List.range version) then removed := removed + 1
  let after ← askStack (·.count)
  return if after > before then some before else none

/-- Accepts on version `v`: the whole stack becomes a tree, kept if it is preferred. -/
def acceptVersion (d : Dialect) (v : Nat) (token : Subtree) : Reading Unit := do
  let p := d.prepared
  onStack (·.push p v (some token) startState)
  let slices ← withStack (·.popAll v)
  for slice in slices do
    let back := slice.trees.reverse
    let behind := (back.takeWhile Subtree.extra).reverse
    match back.dropWhile Subtree.extra with
    | [] => pure ()
    | tree :: before =>
      let root := parent p tree.symbol tree.info.production (before.reverse ++ tree.children ++ behind)
        tree.info.stop
      modify fun s => { s with
        accepted := s.accepted + 1
        finished :=
          match s.finished with
          | some old => if prefersRight old root then some root else some old
          | none => some root }
  match slices with
  | slice :: _ => onStack (·.remove slice.version)
  | [] => pure ()
  onStack (·.halt v)

/-! ### Recovery -/

def addReduction (r : Reduction) (rs : List Reduction) : List Reduction :=
  if rs.any fun q => q.head == r.head && q.size == r.size then rs else rs ++ [r]

/-- Whether some token of the list can be taken, and all productions that may end before one. -/
def possibleReductions (d : Dialect) (state : Nat) (tokens : List Nat) :
    Reading (Bool × List Reduction) := do
  let mut canShift := false
  let mut found : List Reduction := []
  for t in tokens do
    let decision ← decisionAt d state t
    if decision.shift == some false then canShift := true
    for r in decision.reductions do
      if r.size > 0 then found := addReduction r found
  return (canShift, found)

/-- Ends every production that may end from version `start` on: before `token`, or before any. Tells
whether the token can then be taken somewhere. -/
def reduceAll (d : Dialect) (start : Nat) (token : Option Nat) : Reading Bool := do
  let initial ← askStack (·.count)
  go initial start 0 false 2000
where
  go (initial version round : Nat) (canShift : Bool) : Nat → Reading Bool
    | 0 => return canShift
    | fuel + 1 => do
      let count ← askStack (·.count)
      if version ≥ count then return canShift
      let earlier := (List.range version).filter (· ≥ initial)
      if ← mergeDown d.prepared count version earlier then
        go initial version (round + 1) canShift fuel
      else
        let state ← askStack (·.state version)
        let valid ← validIn state
        let tokens := match token with
          | some t => if valid.holds t then [t] else []
          | none => (valid.toList d.prepared.tokens.size).filter (· != endToken)
        let (shifts, reductions) ← if state == lost then pure (true, []) else possibleReductions d state tokens
        let mut made : Option Nat := none
        for r in reductions do
          made ← reduceVersion d version r
        let next := if version == start then count else version + 1
        if shifts then go initial next (round + 1) true fuel
        else
          match made with
          | some m =>
            if round < maxVersions then
              onStack (·.renumber m version)
              go initial version (round + 1) canShift fuel
            else
              if token.isSome then onStack (·.remove version)
              go initial next (round + 1) canShift fuel
          | none =>
            if token.isSome then onStack (·.remove version)
            go initial next (round + 1) canShift fuel

/-- Pops `depth` trees and wraps them, with an error below them, into one error tree. -/
def recoverTo (d : Dialect) (v depth goal : Nat) : Reading Bool := do
  let p := d.prepared
  let slices ← withStack fun s => s.popCount v depth
  let mut done : Option Nat := none
  for slice in slices do
    if done == some slice.version then pure ()
    else if (← askStack (·.state slice.version)) != goal then onStack (·.halt slice.version)
    else
      let inner ← withStack (·.popError slice.version)
      let trees := match inner with
        | some e => e.children ++ slice.trees
        | none => slice.trees
      let (kids, extras) := splitExtras trees
      if !kids.isEmpty then
        let k ← askStack (·.place slice.version)
        onStack (·.push p slice.version (some ((parent p .error none kids k).setExtra true)) goal)
      for e in extras do
        onStack (·.push p slice.version (some e) goal)
      done := some slice.version
  return done.isSome

def dropInactive (i : Nat) : Nat → Reading Unit
  | 0 => return ()
  | fuel + 1 => do
    if i ≥ (← askStack (·.count)) then return ()
    if ← askStack (·.isActive i) then dropInactive (i + 1) fuel
    else
      onStack (·.remove i)
      dropInactive i fuel

def findEarlier (d : Dialect) (v count : Nat) (token : Subtree) (progress cost : Nat) (place : Place) :
    List SummaryEntry → Reading Bool
  | [] => return false
  | e :: es => do
    let go := findEarlier d v count token progress cost place es
    if e.state == lost || e.place.byte == place.byte then go
    else
      let depth := if progress > 0 then e.depth + 1 else e.depth
      let taken ← askStack fun s => (List.range count).any fun j =>
        s.state j == e.state && (s.place j).place.byte == place.byte
      if taken then go
      else
        let newCost := cost + e.depth * skippedTreeCost + (place.byte - e.place.byte) * skippedByteCost
          + (place.row - e.place.row) * skippedLineCost
        if ← betterExists v false newCost then return false
        else
          let fits ← match token.symbol with
            | .token n => hasActions d e.state n
            | _ => pure false
          if fits then
            if ← recoverTo d v depth e.state then return true else go
          else go

/-- A lost version meets a token: it goes on from an earlier state, and it also skips the token. -/
def recoverVersion (d : Dialect) (v : Nat) (token : Subtree) : Reading Unit := do
  let p := d.prepared
  let count ← askStack (·.count)
  let place ← askStack fun s => (s.place v).place
  onStack (·.noteProgress v)
  let progress ← askStack (·.progress v)
  let cost ← askStack (·.errorCost v)
  let summary ← askStack fun s => (s.version v).summary
  let found ← match summary with
    | some entries =>
      if token.isError then pure false else findEarlier d v count token progress cost place entries
    | none => pure false
  dropInactive count 1000
  if found && (← askStack (·.count)) > maxVersions then
    onStack (·.halt v)
  else if token.isEnd then
    let k ← askStack (·.place v)
    onStack (·.push p v (some (parent p .error none [] k)) startState)
    acceptVersion d v token
  else
    let rows := token.info.stop.place.row - place.row
    let newCost := cost + skippedTreeCost + token.totalBytes * skippedByteCost + rows * skippedLineCost
    if ← betterExists v false newCost then onStack (·.halt v)
    else
      let token := match token.symbol with
        | .token n => if p.extras.holds n then token.setExtra true else token
        | _ => token
      let k ← askStack (·.place v)
      let skipped := parent p .skipped none [token] k
      let mut run := skipped
      if progress > 0 then
        let slices ← withStack fun s => s.popCount v 1
        match slices with
        | [] => pure ()
        | first :: _ =>
          if slices.length > 1 then
            onStack fun s => { s with versions := s.versions.extract 0 (first.version + 1) }
          onStack (·.renumber first.version v)
          run := parent p .skipped none (first.trees ++ [skipped]) k
      onStack (·.push p v (some run) lost)

/-- Tries to go on as if a token that the text lacks stood there. -/
def supplyMissing (d : Dialect) (v : Nat) (token : Option Nat) (k : Cursor) :
    List Nat → Reading Bool
  | [] => return false
  | m :: ms => do
    let state ← askStack (·.state v)
    let after ← nextState d state (.token m)
    if after == 0 || after == state then supplyMissing d v token k ms
    else
      let reduces ← match token with
        | some t => do
          match ← actionsAt d after t with
          | .reduce _ :: _ => pure true
          | _ => pure false
        | none => pure false
      if !reduces then supplyMissing d v token k ms
      else
        let copy ← withStack (·.copy v)
        onStack (·.push d.prepared copy (some (missingLeaf (.token m) k)) after)
        -- the end of the text stands for any token here
        if ← reduceAll d copy (token.filter (· != endToken)) then return true
        else supplyMissing d v token k ms

/-- Version `v` cannot use a token and nothing better goes on. -/
def handleError (d : Dialect) (v : Nat) (token : Subtree) : Reading Unit := do
  let before ← askStack (·.count)
  let _ ← reduceAll d v none
  let count ← askStack (·.count)
  let k ← askStack (·.place v)
  let tokenId := match token.symbol with
    | .token n => some n
    | _ => none
  let mut supplied := false
  for w in v :: (List.range count).filter (· ≥ before) do
    if !supplied then
      let state ← askStack (·.state w)
      let valid ← validIn state
      supplied ← supplyMissing d w tokenId k
        ((valid.toList d.prepared.tokens.size).filter (· != endToken))
    onStack (·.push d.prepared w none lost)
  for _ in List.range (count - before) do
    let _ ← withStack (·.merge d.prepared v before)
  onStack (·.recordSummary v summaryDepth)
  recoverVersion d v token

/-! ### Advancing -/

def shiftToken (d : Dialect) (v state : Nat) (token : Subtree) (extra : Bool) : Reading Unit :=
  let tree := if token.isLeaf then token.setExtra extra else token
  onStack (·.push d.prepared v (some tree) state)

inductive Outcome where
  | done
  | reduced (last : Option Nat)
  | unused

def perform (d : Dialect) (v : Nat) (token : Subtree) (did : Bool) (last : Option Nat) :
    List Action → Reading Outcome
  | [] => return if did then .reduced last else .unused
  | a :: as => do
    match a with
    | .shiftLater _ => perform d v token did last as
    | .shift target =>
      shiftToken d v target token false
      return .done
    | .shiftExtra =>
      let state ← askStack (·.state v)
      shiftToken d v state token true
      return .done
    | .accept =>
      acceptVersion d v token
      return .done
    | .recover =>
      recoverVersion d v token
      return .done
    | .reduce r =>
      let made ← reduceVersion d v r
      perform d v token true (if made.isSome then made else last) as

def advance (d : Dialect) (v : Nat) : Reading Unit := do
  let token ← nextToken d v
  let size ← askStack (·.nodes.size)
  go token (size * 4 + 2000)
where
  go (token : Subtree) : Nat → Reading Unit
    | 0 => onStack (·.halt v)
    | fuel + 1 => do
      let state ← askStack (·.state v)
      let actions ← match token.symbol with
        | .token n => actionsAt d state n
        | _ => pure []
      match ← perform d v token false none actions with
      | .done => return ()
      | .reduced (some last) =>
        onStack (·.renumber last v)
        go token fuel
      | .reduced none => onStack (·.halt v)
      | .unused =>
        let valid ← validIn state
        let wordFits ← hasActions d state wordToken
        let asWord := match token.symbol with
          | .token n => token.info.keyword && n != wordToken && !reservedIn d.prepared valid n
          | _ => false
        if asWord && wordFits then go (token.setSymbol (.token wordToken)) fuel
        else if state == lost then recoverVersion d v token
        else onStack (·.pause v token)

def advanceWhile (d : Dialect) (v last : Nat) : Nat → Reading Nat
  | 0 => return last
  | fuel + 1 => do
    if !(← askStack (·.isActive v)) then return last
    advance d v
    let place ← askStack fun s => (s.place v).place.byte
    if place > last || (v > 0 && place == last) then return place
    else advanceWhile d v last fuel

def advanceAll (d : Dialect) (v last : Nat) : Nat → Reading Nat
  | 0 => return last
  | fuel + 1 => do
    if v ≥ (← askStack (·.count)) then return last
    let last ← advanceWhile d v last 10000
    advanceAll d (v + 1) last fuel

/-! ### Weeding out versions -/

/-- Compares version `i` with the versions before it. Gives the number at which to go on, one below
`i` for each version removed. -/
def compareDown (d : Dialect) (mine : Standing) (i j : Nat) : Nat → Reading Nat
  | 0 => return i + 1
  | fuel + 1 => do
    if j ≥ i then return i + 1
    match compareStandings (← standing j) mine with
    | .takeLeft =>
      onStack (·.remove i)
      return i
    | .preferLeft | .undecided =>
      if ← withStack (·.merge d.prepared j i) then return i
      else compareDown d mine i (j + 1) fuel
    | .preferRight =>
      if ← withStack (·.merge d.prepared j i) then return i
      else
        onStack (·.swap i j)
        compareDown d mine i (j + 1) fuel
    | .takeRight =>
      onStack (·.remove j)
      compareDown d mine (i - 1) j fuel

def weed (d : Dialect) (i : Nat) (least : Option Nat) : Nat → Reading (Option Nat)
  | 0 => return least
  | fuel + 1 => do
    if i ≥ (← askStack (·.count)) then return least
    if ← askStack (·.isHalted i) then
      onStack (·.remove i)
      weed d i least fuel
    else
      let mine ← standing i
      let least :=
        if mine.inError then least
        else match least with
          | some m => some (min m mine.cost)
          | none => some mine.cost
      let next ← compareDown d mine i 0 1000
      weed d next least fuel

/-- Lets the first paused version recover if no version before it goes on; drops the others. -/
def resumePaused (d : Dialect) (i n : Nat) (going : Bool) (least : Option Nat) : Nat → Reading (Option Nat)
  | 0 => return least
  | fuel + 1 => do
    if i ≥ n then return least
    if ← askStack (·.isPaused i) then
      if !going && (← get).accepted < maxVersions then
        let cost ← askStack (·.errorCost i)
        match ← withStack (·.resume i) with
        | some token => handleError d i token
        | none => pure ()
        resumePaused d (i + 1) n true (some cost) fuel
      else
        onStack (·.remove i)
        resumePaused d i (n - 1) going least fuel
    else resumePaused d (i + 1) n true least fuel

/-- Drops hopeless versions and orders the others; gives the least cost of a version not in error. -/
def condense (d : Dialect) : Reading (Option Nat) := do
  let least ← weed d 0 none 1000
  onStack fun s => { s with versions := s.versions.extract 0 maxVersions }
  let n ← askStack (·.count)
  resumePaused d 0 n false least 1000

def readLoop (d : Dialect) (last : Nat) : Nat → Reading Unit
  | 0 => return ()
  | fuel + 1 => do
    let last ← advanceAll d 0 last 1000
    let least ← condense d
    let finished := match (← get).finished, least with
      | some t, some m => t.errorCost < m
      | some _, none => true
      | none, _ => false
    if finished || (← askStack (·.count)) == 0 then return ()
    else readLoop d last fuel

def readText (d : Dialect) (text : List Char) : Option Subtree :=
  let start : Session :=
    { automaton := Automaton.initial d.prepared
      stack := Stack.initial startState (Cursor.ofText text)
      finished := none
      accepted := 0 }
  let (_, s) := (readLoop d 0 (text.length * 20 + 1000)).run start
  s.finished

end HookLint.Reader
