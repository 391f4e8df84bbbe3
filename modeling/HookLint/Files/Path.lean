import HookLint.Text.Split

/-!
Paths as they are spelled, their components, and the order of paths component by component.
-/
namespace HookLint.Files

open HookLint.Text

structure Path where
  text : String
deriving DecidableEq, Repr, Inhabited

inductive Component where
  | root
  /-- A leading `.`; elsewhere it is no component. -/
  | here
  | up
  | name (n : List Char)
deriving DecidableEq, Repr

namespace Path

def chars (p : Path) : List Char := p.text.toList

def segments (p : Path) : List (List Char) := split '/' p.chars

def isRooted (p : Path) : Bool := p.chars.head? == some '/'

/-- A piece as a component; nothing and `.` are none. -/
def component? (segment : List Char) : Option Component :=
  if segment = [] ∨ segment = ['.'] then none
  else if segment = ['.', '.'] then some .up
  else some (.name segment)

def startOf (p : Path) : List Component :=
  if p.isRooted then [.root] else if p.segments.head? = some ['.'] then [.here] else []

def components (p : Path) : List Component := p.startOf ++ p.segments.filterMap component?

def fileName? (p : Path) : Option (List Char) :=
  match p.components.getLast? with
  | some (.name n) => some n
  | _ => none

/-- What follows the last dot of a name that has something before it. -/
def extensionOf? (name : List Char) : Option (List Char) :=
  let ending := (name.reverse.takeWhile (· ≠ '.')).reverse
  if ending.length + 1 < name.length then some ending else none

def join (p : Path) (name : String) : Path :=
  if p.text = "" then ⟨name⟩
  else if p.chars.getLast? = some '/' then ⟨p.text ++ name⟩
  else ⟨p.text ++ "/" ++ name⟩

/-- The pieces in front of the last component, without those at their end that are none. The piece at
the very start stays. -/
def dropLastComponent : List (List Char) → List (List Char)
  | segments => (segments.reverse.dropWhile isNone).drop 1 |>.dropWhile isNone |>.reverse
where
  isNone (s : List Char) : Bool := (component? s).isNone

def joinSegments : List (List Char) → List Char
  | [] => []
  | [s] => s
  | s :: t :: ss => s ++ '/' :: joinSegments (t :: ss)

/-- The directory that a path with a name at its end stands in. -/
def parent (p : Path) : Path :=
  let front := joinSegments (dropLastComponent p.segments)
  if front ≠ [] then ⟨String.ofList front⟩
  else if p.isRooted then ⟨"/"⟩
  else if p.segments.head? = some ['.'] then ⟨"."⟩
  else ⟨""⟩

/-- Components compare by kind first, then names by their characters. -/
def componentKey : Component → List Nat
  | .root => [0]
  | .here => [1]
  | .up => [2]
  | .name n => 3 :: n.map Char.toNat

def key (p : Path) : List (List Nat) := p.components.map componentKey

def notAfter (p q : Path) : Bool := !decide (q.key < p.key)

end Path

end HookLint.Files
