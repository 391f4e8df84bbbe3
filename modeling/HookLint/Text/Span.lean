import HookLint.Text.Cursor

/-!
Where a node stands in its text: bytes from 0, the end not included; line and column from 1.
-/
namespace HookLint.Text

structure Span where
  startByte : Nat
  endByte : Nat
  line : Nat
  column : Nat
deriving DecidableEq, Repr, Inhabited

/-- A place as people count: line and column from 1. -/
structure Position where
  line : Nat
  column : Nat
deriving DecidableEq, Repr, Inhabited

def Place.position (p : Place) : Position := ⟨p.row + 1, p.column + 1⟩

def Span.position (s : Span) : Position := ⟨s.line, s.column⟩

def Span.between (start stop : Place) : Span := ⟨start.byte, stop.byte, start.row + 1, start.column + 1⟩

/-- The bytes of a text from `start` to `stop` as text, if they are text. -/
def slice (bytes : ByteArray) (s : Span) : Option String :=
  String.fromUTF8? (bytes.extract s.startByte s.endByte)

end HookLint.Text
