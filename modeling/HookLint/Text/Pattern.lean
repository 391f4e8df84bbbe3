/-!
Regular patterns over characters, matched by derivatives.

`derive c p` matches the texts that `p` matches after `c`. A character class may be the complement
of listed ranges; a complement never holds the null character, which no token contains.
-/
namespace HookLint.Text

/-- Inclusive ranges of code points, or everything outside them but null. -/
structure CharSet where
  ranges : List (Nat × Nat)
  outside : Bool := false
deriving BEq, Hashable, Repr, Inhabited

namespace CharSet

def inRanges (n : Nat) : List (Nat × Nat) → Bool
  | [] => false
  | (lo, hi) :: rs => (decide (lo ≤ n) && decide (n ≤ hi)) || inRanges n rs

def holds (s : CharSet) (c : Char) : Bool :=
  if s.outside then c != '\x00' && !inRanges c.toNat s.ranges else inRanges c.toNat s.ranges

def ofString (s : String) : CharSet := ⟨s.toList.map fun c => (c.toNat, c.toNat), false⟩

def range (lo hi : Char) : CharSet := ⟨[(lo.toNat, hi.toNat)], false⟩

def union (a b : CharSet) : CharSet := ⟨a.ranges ++ b.ranges, false⟩

def complement (a : CharSet) : CharSet := ⟨a.ranges, true⟩

end CharSet

inductive Pattern where
  | none
  | empty
  | one (set : CharSet)
  | seq (first second : Pattern)
  | alt (first second : Pattern)
  | star (body : Pattern)
deriving BEq, Hashable, Repr, Inhabited

namespace Pattern

def matchesEmpty : Pattern → Bool
  | none | one _ => false
  | empty | star _ => true
  | seq a b => a.matchesEmpty && b.matchesEmpty
  | alt a b => a.matchesEmpty || b.matchesEmpty

def andThen : Pattern → Pattern → Pattern
  | none, _ => none
  | _, none => none
  | empty, b => b
  | a, empty => a
  | a, b => seq a b

def orElse : Pattern → Pattern → Pattern
  | none, b => b
  | a, none => a
  | a, b => if a == b then a else alt a b

def derive (c : Char) : Pattern → Pattern
  | none | empty => none
  | one s => if s.holds c then empty else none
  | seq a b =>
    if a.matchesEmpty then orElse (andThen (a.derive c) b) (b.derive c)
    else andThen (a.derive c) b
  | alt a b => orElse (a.derive c) (b.derive c)
  | star a => andThen (a.derive c) (star a)

def isNone : Pattern → Bool
  | none => true
  | _ => false

def accepts (p : Pattern) : List Char → Bool
  | [] => p.matchesEmpty
  | c :: cs => (p.derive c).accepts cs

def ofText : List Char → Pattern
  | [] => empty
  | [c] => one (.range c c)
  | c :: cs => seq (one (.range c c)) (ofText cs)

def text (s : String) : Pattern := ofText s.toList

def oneOf (s : String) : Pattern := one (.ofString s)

def noneOf (s : String) : Pattern := one (CharSet.ofString s).complement

def range (lo hi : Char) : Pattern := one (.range lo hi)

def seqs : List Pattern → Pattern
  | [] => empty
  | [p] => p
  | p :: ps => seq p (seqs ps)

def alts : List Pattern → Pattern
  | [] => none
  | [p] => p
  | p :: ps => alt p (alts ps)

def star1 (p : Pattern) : Pattern := seq p (star p)

def opt (p : Pattern) : Pattern := alt p empty

/-- At least `lo` and at most `lo + extra` times. -/
def times (lo extra : Nat) (p : Pattern) : Pattern :=
  match lo, extra with
  | 0, 0 => empty
  | 0, e + 1 => opt (seq p (times 0 e p))
  | l + 1, e => seq p (times l e p)

end Pattern

end HookLint.Text
