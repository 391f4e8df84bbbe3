import HookLint.Text.Pattern

/-!
Grammars as data. A rule is built from leaves by sequence, choice and repetition, and carries what
decides between readings: binding strength and side, weight, field names and new node names.
-/
namespace HookLint.Grammar

open HookLint.Text

/-- How strongly a rule binds. Named strengths are compared through the grammar's orderings. -/
inductive Strength where
  | unset
  | level (n : Int)
  | named (name : String)
deriving BEq, Hashable, Repr, Inhabited

inductive Side where
  | left
  | right
deriving BEq, Hashable, Repr, DecidableEq, Inhabited

structure Label where
  name : String
  named : Bool
deriving BEq, Hashable, Repr, Inhabited

/-- A token. A spelled token matches its spelling alone; an adjacent one allows no blanks before it. -/
structure Lexeme where
  pattern : Pattern
  spelling : Option String := none
  level : Int := 0
  adjacent : Bool := false
deriving BEq, Hashable, Repr, Inhabited

namespace Lexeme

def ofSpelling (s : String) : Lexeme := { pattern := .text s, spelling := some s }

/-- Which of two equally long tokens of one level is preferred: a spelled one, then an adjacent one. -/
def rank (x : Lexeme) : Nat :=
  (if x.spelling.isSome then 2 else 0) + (if x.adjacent then 1 else 0)

end Lexeme

inductive Leaf where
  | lexeme (x : Lexeme)
  | ref (name : String)
deriving BEq, Hashable, Repr, Inhabited

inductive Rule (α : Type) where
  | blank
  | leaf (x : α)
  | seq (first second : Rule α)
  | alt (first second : Rule α)
  | repeat1 (body : Rule α)
  | field (name : String) (body : Rule α)
  | relabel (label : Label) (body : Rule α)
  | bind (strength : Strength) (side : Option Side) (body : Rule α)
  | weigh (weight : Int) (body : Rule α)
  | anyWord (body : Rule α)
deriving BEq, Hashable, Repr, Inhabited

namespace Rule

variable {α β : Type}

def leaves : Rule α → List α
  | blank => []
  | leaf x => [x]
  | seq a b | alt a b => a.leaves ++ b.leaves
  | repeat1 a | field _ a | relabel _ a | bind _ _ a | weigh _ a | anyWord a => a.leaves

def map (f : α → β) : Rule α → Rule β
  | blank => blank
  | leaf x => leaf (f x)
  | seq a b => seq (a.map f) (b.map f)
  | alt a b => alt (a.map f) (b.map f)
  | repeat1 a => repeat1 (a.map f)
  | field n a => field n (a.map f)
  | relabel l a => relabel l (a.map f)
  | bind s d a => bind s d (a.map f)
  | weigh w a => weigh w (a.map f)
  | anyWord a => anyWord (a.map f)

def seqs : List (Rule α) → Rule α
  | [] => blank
  | [r] => r
  | r :: rs => seq r (seqs rs)

def alts : List (Rule α) → Rule α
  | [] => blank
  | [r] => r
  | r :: rs => alt r (alts rs)

def opt (r : Rule α) : Rule α := alt r blank

def many (r : Rule α) : Rule α := alt (repeat1 r) blank

end Rule

/-- An entry of an ordering of strengths: a named strength, or the rule that an item belongs to. -/
inductive Rank where
  | strength (name : String)
  | rule (name : String)
deriving BEq, Repr, Inhabited

structure Definition where
  name : String
  rule : Rule Leaf
deriving Inhabited

/-- A token that the layout scanner reads. It may share its meaning with an ordinary token. -/
structure LayoutToken where
  name : String
  ordinary : Option Leaf := none

/-- The first definition is the start rule. -/
structure Ruleset where
  name : String
  definitions : List Definition
  blanks : CharSet
  extras : List String
  layout : List LayoutToken
  inlined : List String
  supertypes : List String
  orderings : List (List Rank)
  /-- The token whose spellings include the keywords. -/
  word : String
  /-- Keywords that are never read as a word, unless the rule admits any word. -/
  reserved : List String
  /-- Tokens that are looked for only where they fit, since elsewhere much else looks like them. -/
  onlyInPlace : List Leaf

end HookLint.Grammar
