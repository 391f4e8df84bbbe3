import HookLint.Text.Cursor

/-!
The tokens that no pattern describes: semicolons that a line end stands for, the text of templates
and of markup, the question mark of a conditional, and old comment marks. The typed dialects differ in
where a line end stands for a semicolon.

Blanks are here those of the C locale, and a null character counts as the end of the text.
-/
namespace HookLint.Reader

open HookLint.Text

structure LayoutNeeds where
  templateText : Bool
  semicolon : Bool
  signatureSemicolon : Bool
  question : Bool
  markComment : Bool
  markupText : Bool
  logicalOr : Bool
  escape : Bool
  regex : Bool
deriving Inhabited

inductive LayoutKind where
  | templateText
  | semicolon
  | question
  | markComment
  | markupText
deriving DecidableEq, Repr

structure LayoutMatch where
  kind : LayoutKind
  start : Place
  stop : Cursor

def isBlank (c : Char) : Bool := c == ' ' || (c.toNat ≥ 9 && c.toNat ≤ 13)
def isLineEnd (c : Char) : Bool := c == '\n' || c.toNat == 0x2028 || c.toNat == 0x2029

def look (k : Cursor) : Char := k.rest.head?.getD '\x00'

def seesDigit (k : Cursor) : Bool := (look k).isDigit

/-! ### Blanks and comments -/

/-- What a run of blanks and comments ended with. -/
inductive Gap where
  /-- A slash that begins no comment. -/
  | refused
  /-- A comment without line end, in front of more on its line. -/
  | sameLine
  | passed
deriving DecidableEq

structure GapResult where
  gap : Gap
  sawComment : Bool
  stop : Cursor

/-- Inside a run of blanks and comments: where the last character left off. -/
inductive GapMode where
  | outside
  | slash
  | line
  | block
  | star

def passGap (typed : Bool) (mode : GapMode) (sawComment : Bool) (place : Place) :
    List Char → GapResult
  | [] =>
    match mode with
    | .slash => ⟨.refused, sawComment, ⟨place, []⟩⟩
    | .line => ⟨.passed, true, ⟨place, []⟩⟩
    | _ => ⟨.passed, sawComment, ⟨place, []⟩⟩
  | c :: cs =>
    let here : Cursor := ⟨place, c :: cs⟩
    let go (mode : GapMode) (sawComment : Bool) : GapResult :=
      passGap typed mode sawComment (place.after c) cs
    let outside (sawComment : Bool) : GapResult :=
      if isBlank c then go .outside sawComment
      else if c == '/' then go .slash sawComment
      else ⟨.passed, sawComment, here⟩
    let block : GapResult :=
      if c == '\x00' then outside sawComment
      else if c == '*' then go .star sawComment
      else go .block sawComment
    match mode with
    | .outside => outside sawComment
    | .slash =>
      if c == '/' then go .line sawComment
      else if c == '*' then go .block sawComment
      else ⟨.refused, sawComment, here⟩
    | .line =>
      if c == '\x00' || c == '\n' || (!typed && isLineEnd c) then outside true
      else go .line sawComment
    | .block => block
    | .star => if c == '/' then go .outside true else block

/-! ### Semicolons -/

/-- The answer to "does a line end stand for a semicolon here?", and how far the scanner looked. -/
structure SemicolonResult where
  found : Bool
  sawComment : Bool
  stop : Cursor

/-- Reads the rest of `instanceof`; a word that only begins like it ends the statement before. -/
def passLetters (letters : List Char) (k : Cursor) : Bool × Cursor :=
  match letters with
  | [] => ((look k).isAlpha, k)
  | l :: ls => if k.sees l then passLetters ls k.next else (true, k)

def semicolonBefore (typed : Bool) (needs : LayoutNeeds) (k : Cursor) : Bool × Cursor :=
  let c := look k
  if c == '.' then
    if typed then (false, k) else (seesDigit k.next, k.next)
  else if c == '+' then (k.next.sees '+', k.next)
  else if c == '-' then (k.next.sees '-', k.next)
  else if c == '!' then (look k.next != '=', k.next)
  else if c == 'i' then
    let k := k.next
    if !k.sees 'n' then (true, k)
    else
      let k := k.next
      if !(look k).isAlpha then (false, k) else passLetters "stanceof".toList k
  else if typed && c == '\x7b' then (!needs.signatureSemicolon, k)
  else if c == '(' || c == '[' then (typed && !needs.logicalOr, k)
  else ("`,:;*%><=?^|&/".toList.all (· != c), k)

/-- Behind a line end: passes blanks and comments, then decides. -/
def semicolonAfterLine (typed : Bool) (needs : LayoutNeeds) (sawComment : Bool) (k : Cursor) :
    SemicolonResult :=
  let r := passGap typed .outside sawComment k.place k.rest
  match r.gap with
  | .refused => ⟨false, r.sawComment, r.stop⟩
  | _ =>
    let (found, stop) := semicolonBefore typed needs r.stop
    ⟨found, r.sawComment, stop⟩

/-- Where the plain dialect's scanner is before it meets a line end: in front of the first comment,
inside comments and the blanks between them, or right behind them. -/
inductive LineMode where
  | outside
  | inGap (mode : GapMode) (sawLineEnd : Bool)
  | behind (gap : Gap)

/-- In the plain dialect, up to the line end: a brace, the end of the text or a line end may stand
for a semicolon, and so may comments that hold a line end. -/
def plainSemicolon (needs : LayoutNeeds) (mode : LineMode) (sawComment : Bool) (place : Place) :
    List Char → SemicolonResult
  | [] =>
    match mode with
    | .outside => ⟨true, sawComment, ⟨place, []⟩⟩
    | .inGap .slash _ => ⟨false, sawComment, ⟨place, []⟩⟩
    | .inGap .line _ => ⟨!needs.logicalOr, true, ⟨place, []⟩⟩
    | .inGap _ _ => ⟨!needs.logicalOr, sawComment, ⟨place, []⟩⟩
    | .behind gap => ⟨gap == .passed && !needs.logicalOr, sawComment, ⟨place, []⟩⟩
  | c :: cs =>
    let here : Cursor := ⟨place, c :: cs⟩
    let go (mode : LineMode) (sawComment : Bool) : SemicolonResult :=
      plainSemicolon needs mode sawComment (place.after c) cs
    let onLine (sawComment : Bool) : SemicolonResult :=
      if c == '}' then ⟨true, sawComment, here⟩
      else if isLineEnd c then semicolonAfterLine false needs sawComment ⟨place.after c, cs⟩
      else if isBlank c then go .outside sawComment
      else ⟨false, sawComment, here⟩
    let behind (gap : Gap) (sawComment : Bool) : SemicolonResult :=
      if gap == .passed && !needs.logicalOr && c != ',' && c != '=' then ⟨true, sawComment, here⟩
      else onLine sawComment
    let between (sawComment sawLineEnd : Bool) : SemicolonResult :=
      if isBlank c then go (.inGap .outside sawLineEnd) sawComment
      else if c == '/' then go (.inGap .slash sawLineEnd) sawComment
      else behind .passed sawComment
    let block (sawLineEnd : Bool) : SemicolonResult :=
      if c == '\x00' then between sawComment sawLineEnd
      else if c == '*' then go (.inGap .star sawLineEnd) sawComment
      else go (.inGap .block (sawLineEnd || isLineEnd c)) sawComment
    match mode with
    | .outside =>
      if c == '\x00' then ⟨true, sawComment, here⟩
      else if c == '/' then go (.inGap .slash false) sawComment
      else onLine sawComment
    | .inGap .outside sawLineEnd => between sawComment sawLineEnd
    | .inGap .slash sawLineEnd =>
      if c == '/' then go (.inGap .line sawLineEnd) sawComment
      else if c == '*' then go (.inGap .block sawLineEnd) sawComment
      else ⟨false, sawComment, here⟩
    | .inGap .line sawLineEnd =>
      if c == '\x00' || isLineEnd c then between true sawLineEnd
      else go (.inGap .line sawLineEnd) sawComment
    | .inGap .block sawLineEnd => block sawLineEnd
    | .inGap .star sawLineEnd =>
      if c == '/' then
        if cs.head? != some '/' then go (.behind (if sawLineEnd then .passed else .sameLine)) true
        else go (.inGap .outside sawLineEnd) true
      else block sawLineEnd
    | .behind gap => behind gap sawComment

/-- In the typed dialects: a brace in front of a colon closes a pattern, not a block. -/
def typedSemicolon (needs : LayoutNeeds) (place : Place) : List Char → SemicolonResult
  | [] => ⟨true, false, ⟨place, []⟩⟩
  | c :: cs =>
    if c == '\x00' then ⟨true, false, ⟨place, c :: cs⟩⟩
    else if c == '}' then
      let k := (Cursor.mk (place.after c) cs).dropWhile isBlank
      ⟨if k.sees ':' then needs.logicalOr else true, false, k⟩
    else if c == '\n' then semicolonAfterLine true needs false ⟨place.after c, cs⟩
    else if isBlank c then typedSemicolon needs (place.after c) cs
    else ⟨false, false, ⟨place, c :: cs⟩⟩

/-! ### The other tokens -/

/-- A question mark that is neither doubled nor the start of an optional access. -/
def scanQuestion (typed : Bool) (k : Cursor) : Option LayoutMatch :=
  let k := k.dropWhile isBlank
  if !k.sees '?' then none
  else
    let stop := k.next
    let found : LayoutMatch := ⟨.question, k.place, stop⟩
    if stop.sees '?' then none
    else if typed then
      if stop.sees '.' then none
      else
        let later := stop.dropWhile isBlank
        if later.sees ':' || later.sees ')' || later.sees ',' then none
        else if later.sees '.' then if seesDigit later.next then some found else none
        else some found
    else if stop.sees '.' then if seesDigit stop.next then some found else none
    else some found

/-- Template text, up to a backtick, a substitution or an escape. -/
def scanTemplate (start : Place) (some? : Bool) (place : Place) : List Char → Option LayoutMatch
  | [] => none
  | c :: cs =>
    let found : Option LayoutMatch :=
      if some? then some ⟨.templateText, start, ⟨place, c :: cs⟩⟩ else none
    if c == '\x00' then none
    else if c == '`' || c == '\\' then found
    else if c == '$' && cs.head? == some '\x7b' then found
    else scanTemplate start true (place.after c) cs

def endsMarkup (c : Char) : Bool :=
  c == '\x00' || c == '<' || c == '>' || c == '\x7b' || c == '\x7d' || c == '&'

/-- Markup text, unless it is only line ends and the blanks behind them. -/
def scanMarkup (start : Place) (sawText atLineEnd : Bool) (place : Place) :
    List Char → Option LayoutMatch
  | [] => if sawText then some ⟨.markupText, start, ⟨place, []⟩⟩ else none
  | c :: cs =>
    if endsMarkup c then if sawText then some ⟨.markupText, start, ⟨place, c :: cs⟩⟩ else none
    else if c == '\n' then scanMarkup start sawText true (place.after c) cs
    else
      let atLineEnd := atLineEnd && isBlank c
      scanMarkup start (sawText || !atLineEnd) atLineEnd (place.after c) cs

def passText (text : List Char) (k : Cursor) : Option Cursor :=
  match text with
  | [] => some k
  | c :: cs => if k.sees c then passText cs k.next else none

def scanMarkComment (k : Cursor) : Option LayoutMatch :=
  let k := k.dropWhile fun c => isBlank c || isLineEnd c
  let behind := if k.sees '<' then passText "<!--".toList k else passText "-->".toList k
  behind.map fun b => ⟨.markComment, k.place, b.dropWhile fun c => c != '\x00' && !isLineEnd c⟩

def scanSemicolon (typed : Bool) (needs : LayoutNeeds) (k : Cursor) : SemicolonResult :=
  if typed then typedSemicolon needs k.place k.rest
  else plainSemicolon needs .outside false k.place k.rest

def scanLayout (typed : Bool) (needs : LayoutNeeds) (k : Cursor) : Option LayoutMatch :=
  if needs.templateText then
    if needs.semicolon then none else scanTemplate k.place false k.place k.rest
  else
    let markup := if needs.markupText then scanMarkup k.place false false k.place k.rest else none
    match markup with
    | some m => some m
    | none =>
      -- the scanner goes on behind what it looked at as markup text
      let k := if needs.markupText then k.dropWhile fun c => !endsMarkup c else k
      if needs.semicolon || needs.signatureSemicolon then
        let r := scanSemicolon typed needs k
        if r.found then some ⟨.semicolon, k.place, k⟩
        else if !r.sawComment && needs.question && r.stop.sees '?' then scanQuestion typed r.stop
        else none
      else if needs.question then scanQuestion typed k
      else if needs.markComment && !needs.logicalOr && !needs.escape && !needs.regex then
        scanMarkComment k
      else none

end HookLint.Reader
