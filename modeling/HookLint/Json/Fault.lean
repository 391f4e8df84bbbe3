import HookLint.Text.Cursor

/-!
What can be wrong with a JSON text, and where. A column counts the bytes of its line up to and with the
one that is at fault; at a fault between two bytes, up to it.
-/
namespace HookLint.Json

open HookLint.Text

inductive Fault where
  | endInValue
  | endInList
  | endInObject
  | endInString
  | expectedValue
  | expectedWord
  | expectedListEnd
  | expectedObjectEnd
  | expectedColon
  | keyNotString
  | trailingComma
  | trailingCharacters
  | invalidNumber
  | outOfRange
  | invalidEscape
  | endOfHexEscape
  | loneSurrogate
  | controlCharacter
  | tooDeep
deriving DecidableEq, Repr

def Fault.message : Fault → String
  | endInValue => "EOF while parsing a value"
  | endInList => "EOF while parsing a list"
  | endInObject => "EOF while parsing an object"
  | endInString => "EOF while parsing a string"
  | expectedValue => "expected value"
  | expectedWord => "expected ident"
  | expectedListEnd => "expected `,` or `]`"
  | expectedObjectEnd => "expected `,` or `\x7d`"
  | expectedColon => "expected `:`"
  | keyNotString => "key must be a string"
  | trailingComma => "trailing comma"
  | trailingCharacters => "trailing characters"
  | invalidNumber => "invalid number"
  | outOfRange => "number out of range"
  | invalidEscape => "invalid escape"
  | endOfHexEscape => "unexpected end of hex escape"
  | loneSurrogate => "lone leading surrogate in hex escape"
  | controlCharacter => "control character (\\u0000-\\u001F) found while parsing a string"
  | tooDeep => "recursion limit exceeded"

structure SyntaxError where
  fault : Fault
  line : Nat
  column : Nat
deriving DecidableEq, Repr

def SyntaxError.message (e : SyntaxError) : String :=
  e.fault.message ++ " at line " ++ toString e.line ++ " column " ++ toString e.column

/-- The place `n` bytes on, if the text has that many. -/
def onBytes (p : Place) : Nat → List Char → Option Place
  | 0, _ => some p
  | _ + 1, [] => none
  | n + 1, c :: cs =>
    if c.utf8Size ≤ n + 1 then onBytes (p.after c) (n + 1 - c.utf8Size) cs
    else some ⟨p.byte + n + 1, p.row, p.column + n + 1⟩

def SyntaxError.at (p : Place) (f : Fault) : SyntaxError := ⟨f, p.row + 1, p.column⟩

def failHere {α : Type} (k : Cursor) (f : Fault) : Except SyntaxError α := .error (.at k.place f)

/-- A fault of the next byte; at the end of the text there is none, and the fault is there. -/
def failNext {α : Type} (k : Cursor) (f : Fault) : Except SyntaxError α :=
  .error (.at ((onBytes k.place 1 k.rest).getD k.place) f)

end HookLint.Json
