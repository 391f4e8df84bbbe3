import HookLint.Reader.Layout
import HookLint.Grammar.Corner

/-!
Finding the next token. All tokens that fit are followed side by side over the characters; the longest
match wins, and of equally long ones the one of the higher level, then the spelled one, then the one
named first. Blanks may stand before a token that is not adjacent.
-/
namespace HookLint.Reader

open HookLint.Text HookLint.Grammar

/-- A token on its way: what is left to match, and whether only blanks have passed. -/
structure Thread where
  token : Nat
  level : Int
  rank : Nat
  skipping : Bool
  body : Pattern

def Thread.preferredTo (a b : Thread) : Bool :=
  if a.level > b.level then true
  else if a.level < b.level then false
  else if a.rank > b.rank then true
  else if a.rank < b.rank then false
  else a.token < b.token

def completed (threads : List Thread) : Option Thread :=
  threads.foldl (fun best t =>
    if !t.body.matchesEmpty then best
    else match best with
      | some b => if b.preferredTo t then best else some t
      | none => some t) none

/-- One character further: the threads that live on, whether the character was only a blank, and the
level of the move. -/
structure Move where
  threads : List Thread
  blank : Bool
  level : Int

def moveOver (blanks : CharSet) (c : Char) (threads : List Thread) : Option Move :=
  let isBlank := blanks.holds c
  let living := threads.foldr (fun t acc =>
    let body := t.body.derive c
    let acc := if body.isNone then acc else ({ t with skipping := false, body }, t.level) :: acc
    if t.skipping && isBlank then (t, 0) :: acc else acc) []
  match living with
  | [] => none
  | (_, l) :: _ => some {
      threads := living.map (·.1)
      blank := living.all (·.1.skipping)
      level := living.foldl (fun m (_, l) => if l > m then l else m) l }

/-- A move out of a complete token is made only for a longer token that is no worse. -/
def allowed (done : Option Thread) (threads : List Thread) (m : Move) : Bool :=
  match done with
  | none => true
  | some d =>
    if m.level < d.level then false
    else if m.level == d.level then
      !m.blank && !(threads.any (·.skipping) && !(m.threads.any (·.token == d.token)))
    else true

/-- The outcome of a scan: a token with its extent, or how far the characters went along. -/
inductive Scanned where
  | token (id : Nat) (start stop : Cursor)
  | stuck (start stop : Cursor)

def settleScan (best : Option (Nat × Cursor × Cursor)) (start stop : Cursor) : Scanned :=
  match best with
  | some (id, s, e) => .token id s e
  | none => .stuck start stop

/-- `start` is where the token's text begins, `fresh` holds while only blanks have passed. -/
def scan (blanks : CharSet) (endFits fresh : Bool) (best : Option (Nat × Cursor × Cursor))
    (start : Cursor) (place : Place) (threads : List Thread) : List Char → Scanned
  | [] =>
    let best := match completed threads with
      | some t => some (t.token, start, ⟨place, []⟩)
      | none => best
    if endFits && fresh then .token endToken start ⟨place, []⟩ else settleScan best start ⟨place, []⟩
  | c :: cs =>
    let done := completed threads
    let best := match done with
      | some t => some (t.token, start, ⟨place, c :: cs⟩)
      | none => best
    match moveOver blanks c threads with
    | none => settleScan best start ⟨place, c :: cs⟩
    | some m =>
      if allowed done threads m then
        let next := place.after c
        scan blanks endFits (fresh && m.blank) best (if m.blank then ⟨next, cs⟩ else start) next m.threads
          cs
      else settleScan best start ⟨place, c :: cs⟩

/-- The tokens of a set as threads; keywords are found through the word token. -/
def threadsOf (p : Prepared) (s : TokenSet) : List Thread :=
  let withWord := if (s &&& p.keywordSet) != 0 then s.insert wordToken else s
  (List.range p.tokens.size).filterMap fun n =>
    if withWord.holds n && !p.keywordSet.holds n then
      match p.tokens[n]? with
      | some ⟨_, some x⟩ => some ⟨n, x.level, x.rank, !x.adjacent, x.pattern⟩
      | _ => none
    else none

/-- Scans for the tokens of `threads`, or for the end of the text when `endFits`. -/
def scanFrom (p : Prepared) (endFits : Bool) (threads : List Thread) (k : Cursor) : Scanned :=
  scan p.blanks endFits true none k k.place threads k.rest

end HookLint.Reader
