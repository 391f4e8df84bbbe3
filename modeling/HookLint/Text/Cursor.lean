/-!
Places in a text and the cursor that moves over it.

A place counts bytes of the UTF-8 form: `byte` from the start of the text, `column` from the last
line feed. Only the line feed ends a row.
-/
namespace HookLint.Text

structure Place where
  byte : Nat
  row : Nat
  column : Nat
deriving DecidableEq, Repr, Inhabited

namespace Place

def start : Place := ⟨0, 0, 0⟩

def after (p : Place) (c : Char) : Place :=
  if c = '\n' then ⟨p.byte + 1, p.row + 1, 0⟩
  else ⟨p.byte + c.utf8Size, p.row, p.column + c.utf8Size⟩

def afterAll (p : Place) : List Char → Place
  | [] => p
  | c :: cs => afterAll (p.after c) cs

end Place

structure Cursor where
  place : Place
  rest : List Char
deriving Inhabited

namespace Cursor

def ofText (text : List Char) : Cursor := ⟨Place.start, text⟩

def next (k : Cursor) : Cursor :=
  match k.rest with
  | [] => k
  | c :: cs => ⟨k.place.after c, cs⟩

def atEnd (k : Cursor) : Bool := k.rest.isEmpty

def sees (k : Cursor) (c : Char) : Bool := k.rest.head? == some c

def dropWhile (p : Char → Bool) (k : Cursor) : Cursor :=
  go k.place k.rest
where
  go (place : Place) : List Char → Cursor
    | [] => ⟨place, []⟩
    | c :: cs => if p c then go (place.after c) cs else ⟨place, c :: cs⟩

end Cursor

end HookLint.Text
