import HookLint.Grammar.Rule

/-!
From rules to productions. Tokens are numbered in the order in which the rules name them, repetitions
become rules of their own, choices become separate productions, and inlined rules disappear into the
productions that use them.
-/
namespace HookLint.Grammar

inductive Symbol where
  | token (id : Nat)
  | rule (id : Nat)
  /-- A run of skipped tokens that is still growing. -/
  | skipped
  | error
deriving BEq, Hashable, DecidableEq, Repr, Inhabited

namespace Symbol

/-- Position in the order of symbols: tokens, rules, then the two error symbols. -/
def order : Symbol → Nat × Nat
  | token n => (0, n)
  | rule n => (1, n)
  | skipped => (2, 0)
  | error => (3, 0)

def isBefore (a b : Symbol) : Bool :=
  a.order.1 < b.order.1 || (a.order.1 == b.order.1 && a.order.2 < b.order.2)

end Symbol

/-- The end of the text is token 0. -/
def endToken : Nat := 0

/-- The word token, when a grammar has one, is token 1. -/
def wordToken : Nat := 1

structure Appearance where
  name : String
  shown : Bool
  named : Bool
deriving Repr, Inhabited

structure Token where
  appearance : Appearance
  /-- Absent for the end of the text and for tokens of the layout scanner alone. -/
  lexeme : Option Lexeme
deriving Inhabited

structure Category where
  name : String
  shown : Bool
  named : Bool
  auxiliary : Bool
deriving Repr, Inhabited

structure Step where
  symbol : Symbol
  strength : Strength
  side : Option Side
  label : Option Label
  field : Option String
  anyWord : Bool
deriving BEq, Hashable, Repr, Inhabited

structure Production where
  head : Nat
  steps : Array Step
  weight : Int
deriving BEq, Hashable, Repr, Inhabited

/-! ### Tokens -/

def isHiddenName (name : String) : Bool := name.front == '_'

/-- Adds a lexeme to the counted list, at the end when it is new. -/
def countLexeme (x : Lexeme) : List (Lexeme × Nat) → List (Lexeme × Nat)
  | [] => [(x, 1)]
  | (y, n) :: ys => if x == y then (y, n + 1) :: ys else (y, n) :: countLexeme x ys

/-- Every lexeme of the rules once, in the order of first use, with its number of uses. -/
def Ruleset.countedLexemes (g : Ruleset) : List (Lexeme × Nat) :=
  g.definitions.foldl (fun acc d =>
    d.rule.leaves.foldl (fun acc x =>
      match x with
      | .lexeme x => countLexeme x acc
      | .ref _ => acc) acc) []

/-- The token that a definition names: its whole rule is one token, used nowhere else. -/
def Definition.token? (counted : List (Lexeme × Nat)) (d : Definition) : Option Lexeme :=
  match d.rule with
  | .leaf (.lexeme x) =>
    match counted.find? (·.1 == x) with
    | some (_, 1) => if x.spelling.isNone || !isHiddenName d.name then some x else none
    | _ => none
  | _ => none

structure Names where
  tokens : Array Token
  ofLexeme : Lexeme → Symbol
  ofName : String → Symbol
  definitions : List Definition

def Ruleset.names (g : Ruleset) : Names :=
  let counted := g.countedLexemes
  let promoted := (g.definitions.drop 1).filterMap fun d => (d.token? counted).map (d.name, ·)
  let ordinary : List Token := counted.map fun (x, _) =>
    match promoted.find? (·.2 == x) with
    | some (name, _) => ⟨⟨name, !isHiddenName name, !isHiddenName name⟩, some x⟩
    | none => ⟨⟨x.spelling.getD "", x.spelling.isSome, false⟩, some x⟩
  let (word, others) := ordinary.partition fun t => t.appearance.named && t.appearance.name == g.word
  let layout : List Token := g.layout.filterMap fun t =>
    match t.ordinary with
    | some _ => none
    | none => some ⟨⟨t.name, !isHiddenName t.name, !isHiddenName t.name⟩, none⟩
  let ending : Token := ⟨⟨"end", false, true⟩, none⟩
  let tokens := (ending :: word ++ others ++ layout).toArray
  let remaining := g.definitions.filter fun d => !(promoted.any (·.1 == d.name))
  { tokens
    ofLexeme := fun x => .token ((tokens.findIdx? fun t => t.lexeme == some x).getD 0)
    ofName := fun name =>
      match remaining.findIdx? (·.name == name) with
      | some n => .rule n
      | none =>
        .token ((tokens.findIdx? fun t =>
          t.appearance.name == name && (t.appearance.named || isHiddenName name)).getD 0)
    definitions := remaining }

def Names.resolve (n : Names) : Leaf → Symbol
  | .lexeme x => n.ofLexeme x
  | .ref name => n.ofName name

/-! ### Repetitions -/

/-- The rules made for repetitions so far: their contents in order, from number `next` on. -/
structure Repeats where
  next : Nat
  made : Array (String × Rule Symbol × Symbol)

/-- Replaces each repetition by a rule `r` with `r → r r | content`, one rule for equal contents. -/
def Repeats.expand (owner : String) : Rule Symbol → Repeats → Rule Symbol × Repeats
  | .blank, s => (.blank, s)
  | .leaf x, s => (.leaf x, s)
  | .seq a b, s =>
    let (a, s) := expand owner a s
    let (b, s) := expand owner b s
    (.seq a b, s)
  | .alt a b, s =>
    let (a, s) := expand owner a s
    let (b, s) := expand owner b s
    (.alt a b, s)
  | .repeat1 a, s =>
    let (a, s) := expand owner a s
    match s.made.find? (·.2.1 == a) with
    | some (_, _, x) => (.leaf x, s)
    | none =>
      let x := Symbol.rule (s.next + s.made.size)
      (.leaf x, { s with made := s.made.push (owner ++ "_repeat", a, x) })
  | .field n a, s => let (a, s) := expand owner a s; (.field n a, s)
  | .relabel l a, s => let (a, s) := expand owner a s; (.relabel l a, s)
  | .bind p d a, s => let (a, s) := expand owner a s; (.bind p d a, s)
  | .weigh w a, s => let (a, s) := expand owner a s; (.weigh w a, s)
  | .anyWord a, s => let (a, s) := expand owner a s; (.anyWord a, s)

/-! ### Choices and steps -/

def Rule.choices : Rule Symbol → List (Rule Symbol)
  | .blank => [.blank]
  | .leaf x => [.leaf x]
  | .seq a b =>
    let bs := b.choices
    a.choices.flatMap fun x => bs.map fun y => .seq x y
  | .alt a b => a.choices ++ b.choices
  | .repeat1 a => a.choices
  | .field n a => a.choices.map (.field n ·)
  | .relabel l a => a.choices.map (.relabel l ·)
  | .bind p d a => a.choices.map (.bind p d ·)
  | .weigh w a => a.choices.map (.weigh w ·)
  | .anyWord a => a.choices.map (.anyWord ·)

structure Surrounding where
  strength : Strength := .unset
  side : Option Side := none
  label : Option Label := none
  field : Option String := none
  anyWord : Bool := false

def setLast (f : Step → Step) (steps : Array Step) : Array Step :=
  if steps.isEmpty then steps else steps.modify (steps.size - 1) f

/-- The steps of a choice-free rule. A binding reaches the steps inside it, but the strength of the
last of them counts only when nothing can follow it in the production. -/
def Rule.steps (atEnd : Bool) (around : Surrounding) : Rule Symbol → Array Step
  | .blank => #[]
  | .leaf x => #[⟨x, around.strength, around.side, around.label, around.field, around.anyWord⟩]
  | .seq a b => a.steps false around ++ b.steps atEnd around
  | .alt _ _ => #[]
  | .repeat1 a => a.steps atEnd around
  | .field n a => a.steps atEnd { around with field := some n }
  | .relabel l a => a.steps atEnd { around with label := some l }
  | .bind p d a =>
    let strength := if p == .unset then around.strength else p
    let side := if d.isSome then d else around.side
    let inside := a.steps atEnd { around with strength, side }
    if atEnd then inside
    else inside |> setLast fun s => { s with
      strength := if p == .unset then s.strength else around.strength
      side := if d.isSome then around.side else s.side }
  | .weigh _ a => a.steps atEnd around
  | .anyWord a => a.steps atEnd { around with anyWord := true }

def heavier (a b : Int) : Int := if b.natAbs > a.natAbs then b else a

def Rule.weight : Rule Symbol → Int
  | .blank | .leaf _ => 0
  | .seq a b | .alt a b => heavier a.weight b.weight
  | .repeat1 a | .field _ a | .relabel _ a | .bind _ _ a | .anyWord a => a.weight
  | .weigh w a => heavier w a.weight

def distinct {α : Type} [BEq α] (xs : List α) : List α :=
  (xs.foldl (fun (acc : Array α) x => if acc.contains x then acc else acc.push x) #[]).toList

def Rule.productions (head : Nat) (r : Rule Symbol) : List Production :=
  distinct (r.choices.map fun c => ⟨head, c.steps true {}, c.weight⟩)

/-! ### Inlining -/

/-- Puts the steps of `inner` in place of step `i` of `p`. A label or field of the replaced step goes
to all new steps, its strength and side to the last one if it has none. -/
def Production.replaceStep (p : Production) (i : Nat) (inner : Production) : Production :=
  match p.steps[i]? with
  | none => p
  | some old =>
    let inserted := inner.steps.map fun s => { s with
      label := if old.label.isSome then old.label else s.label
      field := if old.field.isSome then old.field else s.field }
    let inserted := inserted |> setLast fun s => { s with
      strength := if s.strength == .unset then old.strength else s.strength
      side := if s.side.isNone then old.side else s.side }
    { p with
      steps := p.steps.extract 0 i ++ inserted ++ p.steps.extract (i + 1) p.steps.size
      weight := heavier p.weight inner.weight }

def Production.inlineFrom (fuel : Nat) (productions : Array (List Production)) (inlined : Array Bool)
    (i : Nat) (p : Production) : List Production :=
  match fuel with
  | 0 => [p]
  | fuel + 1 =>
    match p.steps[i]? with
    | none => [p]
    | some s =>
      match s.symbol with
      | .rule v =>
        if inlined.getD v false then
          (productions.getD v []).flatMap fun inner =>
            (p.replaceStep i inner).inlineFrom fuel productions inlined i
        else p.inlineFrom fuel productions inlined (i + 1)
      | _ => p.inlineFrom fuel productions inlined (i + 1)

structure Flat where
  tokens : Array Token
  categories : Array Category
  productions : Array (List Production)
  names : Names

def Ruleset.flat (g : Ruleset) : Flat :=
  let names := g.names
  let rules : List (String × Rule Symbol) :=
    names.definitions.map fun d => (d.name, d.rule.map names.resolve)
  let (expanded, repeats) := rules.foldl (fun (acc, s) (name, r) =>
      let (r, s) := Repeats.expand name r s
      (acc.push (name, r), s))
    ((#[] : Array (String × Rule Symbol)), (⟨rules.length, #[]⟩ : Repeats))
  let categories := expanded.map (fun (name, _) =>
      let hidden := isHiddenName name || g.supertypes.contains name
      (⟨name, !hidden, !isHiddenName name, false⟩ : Category))
    ++ repeats.made.map fun (name, _, _) => ⟨name, false, false, true⟩
  let bodies := expanded.map (·.2)
    ++ repeats.made.map fun (_, body, x) => Rule.alt (.seq (.leaf x) (.leaf x)) body
  let direct := bodies.mapIdx fun head body => body.productions head
  let inlined := categories.map fun v => g.inlined.contains v.name
  let productions := direct.map fun ps =>
    distinct (ps.flatMap fun p => p.inlineFrom 200 direct inlined 0)
  { tokens := names.tokens, categories, productions, names }

end HookLint.Grammar
