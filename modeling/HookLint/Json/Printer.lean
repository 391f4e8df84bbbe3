import HookLint.Json.Value
import HookLint.Number.Shortest

/-!
The text of a value: on one line without blanks, or spread over lines, two blanks for each level.
Only the quote, the backslash and control characters are escaped.
-/
namespace HookLint.Json

open HookLint.Number

def hexDigit (n : Nat) : Char := if n < 10 then Char.ofNat (48 + n) else Char.ofNat (87 + n)

def escape (c : Char) : List Char :=
  if c = '"' then ['\\', '"']
  else if c = '\\' then ['\\', '\\']
  else if c = '\x08' then ['\\', 'b']
  else if c = '\x0c' then ['\\', 'f']
  else if c = '\n' then ['\\', 'n']
  else if c = '\r' then ['\\', 'r']
  else if c = '\t' then ['\\', 't']
  else if c.toNat < 0x20 then ['\\', 'u', '0', '0', hexDigit (c.toNat / 16), hexDigit (c.toNat % 16)]
  else [c]

def quoted (s : String) : List Char := '"' :: s.toList.flatMap escape ++ ['"']

def decimalDigits (n : Nat) : List Char := Nat.toDigits 10 n

/-- Positional from `0.00001` to below `10 ^ 16`, with a mark of the exponent elsewhere. -/
def realText (x : Double) : List Char :=
  let d := x.shortest
  let digits := decimalDigits d.digits
  let exponent := d.exponent + digits.length - 1
  if exponent < -5 ∨ 15 < exponent then
    let fraction := match digits.drop 1 with
      | [] => []
      | tail => '.' :: tail
    digits.take 1 ++ fraction ++ ['e', if exponent < 0 then '-' else '+'] ++ decimalDigits exponent.natAbs
  else if 0 ≤ d.exponent then digits ++ List.replicate d.exponent.natAbs '0' ++ ['.', '0']
  else if 0 ≤ exponent then
    digits.take (exponent.natAbs + 1) ++ '.' :: digits.drop (exponent.natAbs + 1)
  else '0' :: '.' :: List.replicate (exponent.natAbs - 1) '0' ++ digits

def Number.text : Number → List Char
  | natural n => decimalDigits n
  | negative n => '-' :: decimalDigits n
  | real false x => realText x
  | real true x => '-' :: realText x

mutual

def Value.compact : Value → List Char
  | .null => "null".toList
  | .bool b => (if b then "true" else "false").toList
  | .number n => n.text
  | .string s => quoted s
  | .array items => '[' :: compactItems true items
  | .object members => '{' :: compactMembers true members

/-- What is left of an array, after a comma when it is not the first. -/
def compactItems (first : Bool) : List Value → List Char
  | [] => [']']
  | v :: vs => (if first then [] else [',']) ++ v.compact ++ compactItems false vs

def compactMembers (first : Bool) : List (String × Value) → List Char
  | [] => ['}']
  | (k, v) :: ms => (if first then [] else [',']) ++ quoted k ++ ':' :: v.compact ++ compactMembers false ms

end

def newLine (level : Nat) : List Char := '\n' :: List.replicate (2 * level) ' '

mutual

def Value.pretty (level : Nat) : Value → List Char
  | .null => "null".toList
  | .bool b => (if b then "true" else "false").toList
  | .number n => n.text
  | .string s => quoted s
  | .array [] => ['[', ']']
  | .array (v :: vs) =>
    '[' :: newLine (level + 1) ++ v.pretty (level + 1) ++ prettyItems (level + 1) vs ++ newLine level ++ [']']
  | .object [] => ['{', '}']
  | .object ((k, v) :: ms) =>
    '{' :: newLine (level + 1) ++ quoted k ++ ':' :: ' ' :: v.pretty (level + 1) ++
      prettyMembers (level + 1) ms ++ newLine level ++ ['}']

def prettyItems (level : Nat) : List Value → List Char
  | [] => []
  | v :: vs => ',' :: newLine level ++ v.pretty level ++ prettyItems level vs

def prettyMembers (level : Nat) : List (String × Value) → List Char
  | [] => []
  | (k, v) :: ms =>
    ',' :: newLine level ++ quoted k ++ ':' :: ' ' :: v.pretty level ++ prettyMembers level ms

end

def compactText (v : Value) : String := String.ofList v.compact

def prettyText (v : Value) : String := String.ofList (v.pretty 0)

end HookLint.Json
