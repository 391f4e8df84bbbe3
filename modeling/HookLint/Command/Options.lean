import HookLint.Command.Argument
import HookLint.Files.Path

/-!
Reading the words of a command line.

A value is taken up when the next argument begins, so the faults of an argument come to light after
those of the words in between. A word that is no known option ends the reading at once, whatever is
wrong before it.
-/
namespace HookLint.Command

structure Options where
  path : Option String := none
  config : Option String := none
  hooks : List String := []
  severity : Option String := none
  json : Bool := false
  verbose : Bool := false
deriving DecidableEq, Repr, Inhabited

inductive Request where
  | run (o : Options)
  | help
  | version
deriving DecidableEq, Repr

inductive Stop where
  | wrong (e : UsageError)
  | answer (r : Request)
deriving DecidableEq, Repr

structure Scan where
  options : Options := {}
  /-- Arguments taken up so far, in the order in which they came first. -/
  given : List Argument := []
  /-- An argument that waits to be taken up, with its value if it has come. -/
  waiting : Option (Argument × Option String) := none
  hasPath : Bool := false
  /-- All words that follow are values. -/
  literal : Bool := false
deriving DecidableEq, Repr

def Options.set (o : Options) (a : Argument) (value : String) : Options :=
  match a with
  | .path => { o with path := some value }
  | .config => { o with config := some value }
  | .hook => { o with hooks := o.hooks ++ [value] }
  | .severity => { o with severity := some value }
  | .json => { o with json := true }
  | .verbose => { o with verbose := true }
  | .help | .version => o

namespace Scan

/-- Takes up an argument: once, except those that repeat, and no empty file name. What was noted before
a fault stays. -/
def take (s : Scan) (a : Argument) (value : String) : Scan × Option UsageError :=
  if s.given.contains a && !a.repeats then ({ s with given := s.given.erase a }, some (.repeated a))
  else
    let s := { s with given := if s.given.contains a then s.given else s.given ++ [a] }
    if a.isPath && value.isEmpty then (s, some (.missingValue a))
    else ({ s with options := s.options.set a value }, none)

def settle (s : Scan) : Scan × Option UsageError :=
  match s.waiting with
  | none => (s, none)
  | some (a, none) => ({ s with waiting := none }, some (.missingValue a))
  | some (a, some value) => Scan.take { s with waiting := none } a value

def settled (s : Scan) : Except Stop Scan :=
  match s.settle with
  | (s, none) => .ok s
  | (_, some e) => .error (.wrong e)

def takeNow (s : Scan) (a : Argument) (value : String) : Except Stop Scan := do
  let s ← s.settled
  match a with
  | .help => throw (.answer .help)
  | .version => throw (.answer .version)
  | _ =>
    match s.take a value with
    | (s, none) => return s
    | (_, some e) => throw (.wrong e)

def await (s : Scan) (a : Argument) : Except Stop Scan := do
  let s ← s.settled
  return { s with waiting := some (a, none) }

def refuse (s : Scan) (text : String) (meant : Option Argument) (asValue : Bool)
    (givenWith : List Argument → List Argument) : Except Stop Scan :=
  .error (.wrong (.unexpected text meant asValue (givenWith s.settle.1.given)))

def addGiven (a : Option Argument) (given : List Argument) : List Argument :=
  match a with
  | some a => if given.contains a then given else given ++ [a]
  | none => given

/-- A word `--name` or `--name=value`. -/
def long (s : Scan) (name : String) (value : Option String) : Except Stop Scan :=
  match Argument.ofLong? name with
  | none =>
    let meant := Argument.similar? name
    s.refuse ("--" ++ name) meant meant.isNone (addGiven meant)
  | some a =>
    match a.value?, value with
    | some _, some v => s.takeNow a v
    | some _, none => s.await a
    | none, some v => .error (.wrong (.unexpectedValue v a (addGiven (some a) s.given)))
    | none, none => s.takeNow a ""

/-- The letters of a word `-abc`. An option with a value takes the rest as its value. -/
def short (s : Scan) : List Char → Except Stop Scan
  | [] => .ok s
  | c :: cs =>
    match Argument.ofShort? c with
    | none => s.refuse (String.ofList ['-', c]) none true fun _ => []
    | some a =>
      if a.value?.isNone then do (← s.takeNow a "").short cs
      else if cs = [] then s.await a
      else s.takeNow a (String.ofList (if cs.head? = some '=' then cs.drop 1 else cs))

def positional (s : Scan) (word : String) : Except Stop Scan := do
  if s.hasPath then s.refuse word none false fun _ => []
  else
    let s ← s.settled
    return { s with waiting := some (.path, some word), hasPath := true }

def nameAndValue (word : List Char) : String × Option String :=
  let name := word.takeWhile (· ≠ '=')
  (String.ofList name,
    if name.length < word.length then some (String.ofList (word.drop (name.length + 1))) else none)

def word (s : Scan) (text : String) : Except Stop Scan :=
  if s.literal then s.positional text
  else
    match text.toList with
    | ['-', '-'] => .ok { s with literal := true }
    | '-' :: '-' :: rest => s.long (nameAndValue rest).1 (nameAndValue rest).2
    | '-' :: c :: rest => s.short (c :: rest)
    | _ =>
      match s.waiting with
      | some (a, none) => .ok { s with waiting := some (a, some text) }
      | _ => s.positional text

def words (s : Scan) : List String → Except Stop Scan
  | [] => s.settled
  | w :: ws => do (← s.word w).words ws

end Scan

def Request.ofWords (ws : List String) : Except UsageError Request :=
  match Scan.words {} ws with
  | .ok s => .ok (.run s.options)
  | .error (.answer r) => .ok r
  | .error (.wrong e) => .error e

/-- The path to look at; the working directory when none is given. -/
def Options.target (o : Options) : Files.Path := ⟨o.path.getD "."⟩

end HookLint.Command
