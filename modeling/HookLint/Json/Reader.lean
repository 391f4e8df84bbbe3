import HookLint.Json.Fault
import HookLint.Json.Value

/-!
Reading a JSON text. The first fault in the order of the text is reported. Lists and objects may be
nested 127 deep.
-/
namespace HookLint.Json

open HookLint.Text HookLint.Number

def isBlank (c : Char) : Bool := c == ' ' || c == '\n' || c == '\t' || c == '\r'

def skipBlanks (k : Cursor) : Cursor := k.dropWhile isBlank

def seesDigit (k : Cursor) : Bool := (k.rest.head?.map Char.isDigit).getD false

def seesExponent (k : Cursor) : Bool := k.sees 'e' || k.sees 'E'

def readWord (k : Cursor) : List Char → Except SyntaxError Cursor
  | [] => .ok k
  | w :: ws =>
    match k.rest with
    | [] => failHere k .endInValue
    | c :: _ => if c = w then readWord k.next ws else failNext k .expectedWord

def digitValue (c : Char) : Nat := c.toNat - '0'.toNat

/-- Digits appended to a number while it stays below a limit: the number, how many, and the rest. -/
def takeDigits (limit number taken : Nat) (place : Place) : List Char → Nat × Nat × Cursor
  | [] => (number, taken, ⟨place, []⟩)
  | c :: cs =>
    if c.isDigit && 10 * number + digitValue c < limit then
      takeDigits limit (10 * number + digitValue c) (taken + 1) (place.after c) cs
    else (number, taken, ⟨place, c :: cs⟩)

def dropDigits (dropped : Nat) (place : Place) : List Char → Nat × Cursor
  | [] => (dropped, ⟨place, []⟩)
  | c :: cs =>
    if c.isDigit then dropDigits (dropped + 1) (place.after c) cs else (dropped, ⟨place, c :: cs⟩)

/-- The significand of a number holds as many leading digits as 64 bits do. -/
def significandLimit : Nat := 0x10000000000000000

/-- Exponents from this on count as without end. -/
def exponentLimit : Nat := 0x80000000

def finishReal (positive : Bool) (significand : Nat) (exponent : Int) (k : Cursor) :
    Except SyntaxError (Number × Cursor) :=
  match Double.ofDecimal? significand exponent with
  | some x => .ok (.real (!positive) x, k)
  | none => failHere k .outOfRange

def readExponent (positive : Bool) (significand : Nat) (exponent : Int) (k : Cursor) :
    Except SyntaxError (Number × Cursor) :=
  let k := k.next
  let up := !k.sees '-'
  let k := if k.sees '+' || k.sees '-' then k.next else k
  if k.atEnd then failHere k .endInValue
  else if !seesDigit k then failNext k .invalidNumber
  else
    let (places, _, k) := takeDigits exponentLimit 0 0 k.place k.rest
    if seesDigit k then
      if significand ≠ 0 && up then failHere k.next .outOfRange
      else .ok (.real (!positive) .zero, (dropDigits 0 k.place k.rest).2)
    else finishReal positive significand (if up then exponent + places else exponent - places) k

def readFraction (positive : Bool) (significand : Nat) (exponent : Int) (k : Cursor) :
    Except SyntaxError (Number × Cursor) :=
  let k := k.next
  let (significand, taken, k) := takeDigits significandLimit significand 0 k.place k.rest
  if taken = 0 && !seesDigit k then
    if k.atEnd then failHere k .endInValue else failNext k .invalidNumber
  else
    let k := (dropDigits 0 k.place k.rest).2
    let exponent := exponent - taken
    if seesExponent k then readExponent positive significand exponent k
    else finishReal positive significand exponent k

/-- A whole number; one that does not fit 64 bits, and `-0`, is real. -/
def wholeNumber (positive : Bool) (n : Nat) : Number :=
  if positive then .natural n
  else if 0 < n ∧ 2 * n ≤ significandLimit then .negative n
  else .real true ((Double.nearest? n 1).getD .zero)

def readNumber (positive : Bool) (k : Cursor) : Except SyntaxError (Number × Cursor) :=
  if k.atEnd then failHere k .endInValue
  else if !seesDigit k then failNext k .invalidNumber
  else if k.sees '0' && seesDigit k.next then failNext k.next .invalidNumber
  else
    let (significand, _, k) := takeDigits significandLimit 0 0 k.place k.rest
    let (dropped, k) := dropDigits 0 k.place k.rest
    if k.sees '.' then readFraction positive significand dropped k
    else if seesExponent k then readExponent positive significand dropped k
    else if dropped = 0 then .ok (wholeNumber positive significand, k)
    else finishReal positive significand dropped k

def hexValue? (c : Char) : Option Nat :=
  if '0' ≤ c ∧ c ≤ '9' then some (c.toNat - 48)
  else if 'a' ≤ c ∧ c ≤ 'f' then some (c.toNat - 87)
  else if 'A' ≤ c ∧ c ≤ 'F' then some (c.toNat - 55)
  else none

def readHex (k : Cursor) : Except SyntaxError (Nat × Cursor) :=
  match onBytes k.place 4 k.rest with
  | none => .error (.at (k.place.afterAll k.rest) .endInString)
  | some p =>
    match (k.rest.take 4).mapM hexValue? with
    | some [a, b, c, d] => .ok (((a * 16 + b) * 16 + c) * 16 + d, ⟨p, k.rest.drop 4⟩)
    | _ => .error (.at p .invalidEscape)

def expectInPair (c : Char) (k : Cursor) : Except SyntaxError Cursor :=
  if k.atEnd then failHere k .endInString
  else if k.sees c then .ok k.next
  else failNext k .endOfHexEscape

def isLeading (n : Nat) : Bool := 0xD800 ≤ n && n ≤ 0xDBFF
def isTrailing (n : Nat) : Bool := 0xDC00 ≤ n && n ≤ 0xDFFF

/-- The character of `\u` and its four digits; two such escapes may name one character beyond the first
plane. -/
def readCodePoint (k : Cursor) : Except SyntaxError (Char × Cursor) := do
  let (n, k) ← readHex k
  if isTrailing n then failHere k .loneSurrogate
  else if !isLeading n then .ok (Char.ofNat n, k)
  else
    let k ← expectInPair '\\' k
    let k ← expectInPair 'u' k
    let (m, k) ← readHex k
    if isTrailing m then .ok (Char.ofNat (0x10000 + (n - 0xD800) * 0x400 + (m - 0xDC00)), k)
    else failHere k .loneSurrogate

def readEscape (k : Cursor) : Except SyntaxError (Char × Cursor) :=
  match k.rest with
  | [] => failHere k .endInString
  | '"' :: _ => .ok ('"', k.next)
  | '\\' :: _ => .ok ('\\', k.next)
  | '/' :: _ => .ok ('/', k.next)
  | 'b' :: _ => .ok ('\x08', k.next)
  | 'f' :: _ => .ok ('\x0c', k.next)
  | 'n' :: _ => .ok ('\n', k.next)
  | 'r' :: _ => .ok ('\r', k.next)
  | 't' :: _ => .ok ('\t', k.next)
  | 'u' :: _ => readCodePoint k.next
  | _ => failNext k .invalidEscape

def readString : Nat → List Char → Cursor → Except SyntaxError (String × Cursor)
  | 0, _, k => failHere k .endInString
  | fuel + 1, done, k =>
    match k.rest with
    | [] => failHere k .endInString
    | '"' :: _ => .ok (String.ofList done.reverse, k.next)
    | '\\' :: _ => do
      let (c, k) ← readEscape k.next
      readString fuel (c :: done) k
    | c :: _ =>
      if c.toNat < 0x20 then failNext k .controlCharacter else readString fuel (c :: done) k.next

/-- A string behind its opening quote. Each character of it takes one round at most. -/
def stringAt (k : Cursor) : Except SyntaxError (String × Cursor) := readString (k.rest.length + 1) [] k

mutual

/-- A value. `depth` is one more than the levels that may still be opened. -/
def readValue : Nat → Nat → Cursor → Except SyntaxError (Value × Cursor)
  | 0, _, k => failHere k .tooDeep
  | fuel + 1, depth, k =>
    let k := skipBlanks k
    match k.rest with
    | [] => failHere k .endInValue
    | 'n' :: _ => do
      let k ← readWord k.next ['u', 'l', 'l']
      return (.null, k)
    | 't' :: _ => do
      let k ← readWord k.next ['r', 'u', 'e']
      return (.bool true, k)
    | 'f' :: _ => do
      let k ← readWord k.next ['a', 'l', 's', 'e']
      return (.bool false, k)
    | '"' :: _ => do
      let (s, k) ← stringAt k.next
      return (.string s, k)
    | '-' :: _ => do
      let (n, k) ← readNumber false k.next
      return (.number n, k)
    | '[' :: _ => if depth ≤ 1 then failNext k .tooDeep else readItems fuel (depth - 1) [] k.next
    | '\x7b' :: _ => if depth ≤ 1 then failNext k .tooDeep else readMembers fuel (depth - 1) true [] k.next
    | c :: _ =>
      if c.isDigit then do
        let (n, k) ← readNumber true k
        return (.number n, k)
      else failNext k .expectedValue

/-- What is left of a list, behind the items read so far, the last first. -/
def readItems : Nat → Nat → List Value → Cursor → Except SyntaxError (Value × Cursor)
  | 0, _, _, k => failHere k .tooDeep
  | fuel + 1, depth, done, k =>
    let k := skipBlanks k
    match k.rest with
    | [] => failHere k .endInList
    | ']' :: _ => .ok (.array done.reverse, k.next)
    | c :: _ =>
      if done.isEmpty then do
        let (v, k) ← readValue fuel depth k
        readItems fuel depth (v :: done) k
      else if c = ',' then
        let k := skipBlanks k.next
        match k.rest with
        | [] => failHere k .endInValue
        | ']' :: _ => failNext k .trailingComma
        | _ => do
          let (v, k) ← readValue fuel depth k
          readItems fuel depth (v :: done) k
      else failNext k .expectedListEnd

/-- What is left of an object, behind the members read so far. -/
def readMembers : Nat → Nat → Bool → Members → Cursor → Except SyntaxError (Value × Cursor)
  | 0, _, _, _, k => failHere k .tooDeep
  | fuel + 1, depth, first, done, k =>
    let k := skipBlanks k
    match k.rest with
    | [] => failHere k .endInObject
    | '\x7d' :: _ => .ok (.object done, k.next)
    | c :: _ =>
      if first then
        if c = '"' then readMember fuel depth done k.next else failNext k .keyNotString
      else if c = ',' then
        let k := skipBlanks k.next
        match k.rest with
        | [] => failHere k .endInValue
        | '"' :: _ => readMember fuel depth done k.next
        | '\x7d' :: _ => failNext k .trailingComma
        | _ => failNext k .keyNotString
      else failNext k .expectedObjectEnd

/-- A member behind the opening quote of its key, and what is left of the object. -/
def readMember : Nat → Nat → Members → Cursor → Except SyntaxError (Value × Cursor)
  | 0, _, _, k => failHere k .tooDeep
  | fuel + 1, depth, done, k => do
    let (key, k) ← stringAt k
    let k := skipBlanks k
    match k.rest with
    | [] => failHere k .endInObject
    | ':' :: _ =>
      let (v, k) ← readValue fuel depth k.next
      readMembers fuel depth false (insert key v done) k
    | _ => failNext k .expectedColon

end

/-- Rounds that suffice for a text: a character is read in three at most. -/
def rounds (text : List Char) : Nat := 3 * text.length + 3

def readChars (text : List Char) : Except SyntaxError Value := do
  let (v, k) ← readValue (rounds text) 128 (Cursor.ofText text)
  let k := skipBlanks k
  if k.atEnd then .ok v else failNext k .trailingCharacters

def read (text : String) : Except SyntaxError Value := readChars text.toList

end HookLint.Json
