import HookLint.Reader.Scan
import HookLint.Reader.Stack
import HookLint.Reader.Automaton

/-!
The next token of a version. The layout scanner is asked first, then the tokens that fit the state;
when none fits, all tokens are tried, and where no token begins at all, characters are skipped until
one does.
-/
namespace HookLint.Reader

open HookLint.Text HookLint.Grammar

structure Session where
  automaton : Automaton
  stack : Stack
  finished : Option Subtree
  accepted : Nat
deriving Inhabited

abbrev Reading := StateM Session

/-- The grammar that is read with, and whether its line ends follow the typed rules. -/
structure Dialect where
  prepared : Prepared
  typed : Bool

def withAutomaton {α : Type} (f : Automaton → α × Automaton) : Reading α := fun s =>
  let m := s.automaton
  let s := { s with automaton := default }
  let (a, m) := f m
  (a, { s with automaton := m })

def withStack {α : Type} (f : Stack → α × Stack) : Reading α := fun s =>
  let k := s.stack
  let s := { s with stack := default }
  let (a, k) := f k
  (a, { s with stack := k })

def onStack (f : Stack → Stack) : Reading Unit := withStack fun k => ((), f k)

def askStack {α : Type} (f : Stack → α) : Reading α := fun s => (f s.stack, s)

def targetOf (d : Dialect) (state : Nat) (x : Symbol) : Reading Nat :=
  withAutomaton (Automaton.target d.prepared d.prepared.categories.size state x)

def validIn (state : Nat) : Reading TokenSet := fun s => (s.automaton.valid state, s)

inductive Action where
  | reduce (r : Reduction)
  | shift (state : Nat)
  /-- Taken by a repetition, which ends first. -/
  | shiftLater (state : Nat)
  | shiftExtra
  | accept
  | recover

def decisionAt (d : Dialect) (state token : Nat) : Reading Decision :=
  withAutomaton (Automaton.decision d.prepared state token)

def actionsAt (d : Dialect) (state token : Nat) : Reading (List Action) := do
  if state == lost then
    return if d.prepared.extras.holds token then [.shiftExtra] else [.recover]
  let valid ← validIn state
  if !valid.holds token then
    return if d.prepared.extras.holds token then [.shiftExtra] else []
  let decision ← decisionAt d state token
  let reductions := decision.reductions.map Action.reduce
  let accepting := if decision.accepts then [Action.accept] else []
  match decision.shift with
  | none => return accepting ++ reductions
  | some later =>
    let target ← targetOf d state (.token token)
    return accepting ++ reductions ++ [if later then .shiftLater target else .shift target]

def hasActions (d : Dialect) (state token : Nat) : Reading Bool := do
  if state == lost then return true
  let valid ← validIn state
  return valid.holds token || d.prepared.extras.holds token

def nextState (d : Dialect) (state : Nat) (x : Symbol) : Reading Nat := do
  match x with
  | .token n =>
    let actions ← actionsAt d state n
    match actions.getLast? with
    | some (.shift target) | some (.shiftLater target) => return target
    | some .shiftExtra => return state
    | _ => return 0
  | _ => targetOf d state x

/-! ### Layout tokens -/

def layoutToken (d : Dialect) (name : String) : Option Nat :=
  (d.prepared.layout.find? (·.1 == name)).map (·.2)

def needsOf (d : Dialect) (valid : TokenSet) : LayoutNeeds :=
  let fits (name : String) : Bool :=
    match layoutToken d name with
    | some n => valid.holds n
    | none => false
  { templateText := fits "_template_chars"
    semicolon := fits "_automatic_semicolon"
    signatureSemicolon := fits "_function_signature_automatic_semicolon"
    question := fits "_ternary_qmark"
    markComment := true
    markupText := fits "jsx_text"
    logicalOr := fits "||"
    escape := fits "escape_sequence"
    regex := fits "regex_pattern" }

def LayoutKind.tokenName : LayoutKind → String
  | templateText => "_template_chars"
  | semicolon => "_automatic_semicolon"
  | question => "_ternary_qmark"
  | markComment => "html_comment"
  | markupText => "jsx_text"

/-- The scanner's token at the top of version `v`. An empty one counts only after progress. -/
def layoutAt (d : Dialect) (v state : Nat) (valid : TokenSet) (k : Cursor) : Reading (Option Subtree) := do
  if state == lost then return none
  match scanLayout d.typed (needsOf d valid) k with
  | none => return none
  | some m =>
    match layoutToken d m.kind.tokenName with
    | none => return none
    | some n =>
      let tree := leaf (.token n) k.place.byte m.start m.stop false
      if m.stop.place.byte ≤ k.place.byte then
        let target ← nextState d state (.token n)
        let advanced ← askStack (·.hasAdvanced v)
        if !advanced || target == state then return none
      return some tree

/-! ### Ordinary tokens -/

def textUpTo (byte : Nat) (place : Place) : List Char → List Char
  | [] => []
  | c :: cs => if place.byte < byte then c :: textUpTo byte (place.after c) cs else []

/-- Turns a scanned token into a leaf; a word may be a keyword of the state. -/
def tokenLeaf (d : Dialect) (state : Nat) (k : Cursor) (id : Nat) (start stop : Cursor) :
    Reading Subtree := do
  if id != wordToken then return leaf (.token id) k.place.byte start.place stop false
  let text := String.ofList (textUpTo stop.place.byte start.place start.rest)
  match d.prepared.keywords[text]? with
  | none => return leaf (.token id) k.place.byte start.place stop false
  | some n =>
    let fits ← hasActions d state n
    let valid ← validIn state
    let isKeyword := fits || (state != lost && reservedIn d.prepared valid n)
    return leaf (.token (if isKeyword then n else id)) k.place.byte start.place stop true

/-- Skips characters at which no token begins. -/
def skipUnknown (p : Prepared) (threads : List Thread) (fuel : Nat) (errorStop from' : Cursor) : Cursor :=
  match fuel with
  | 0 => errorStop
  | fuel + 1 =>
    match scanFrom p true threads from' with
    | .token _ _ _ => errorStop
    | .stuck _ stop =>
      if stop.place.byte == errorStop.place.byte then
        if stop.atEnd then errorStop else skipUnknown p threads fuel stop.next stop.next
      else skipUnknown p threads fuel stop stop

/-- Any token, wherever the reader is; else the characters up to the next token as an error. -/
def lostToken (d : Dialect) (state : Nat) (k : Cursor) : Reading Subtree := do
  let threads := threadsOf d.prepared d.prepared.recoverySet
  match scanFrom d.prepared true threads k with
  | .token id start stop => tokenLeaf d state k id start stop
  | .stuck start stop =>
    let first :=
      if stop.place.byte == start.place.byte then if stop.atEnd then start else stop.next else stop
    let errorStop :=
      if first.place.byte == start.place.byte then start
      else skipUnknown d.prepared threads (k.rest.length + 1) first first
    return leaf .error k.place.byte start.place errorStop false

def nextToken (d : Dialect) (v : Nat) : Reading Subtree := do
  let state ← askStack (·.state v)
  let k ← askStack (·.place v)
  -- a mark of the byte order at the very start is passed over
  if state == lost then lostToken d state k
  else
    let valid ← validIn state
    match ← layoutAt d v state valid k with
    | some t => return t
    | none =>
      let threads := threadsOf d.prepared (valid.union d.prepared.extras)
      match scanFrom d.prepared (valid.holds endToken) threads k with
      | .token id start stop => tokenLeaf d state k id start stop
      | .stuck _ _ => lostToken d state k

end HookLint.Reader
