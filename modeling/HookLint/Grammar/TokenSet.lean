/-!
Sets of tokens as bit masks: token `n` is in the set when bit `n` is set.
-/
namespace HookLint.Grammar

abbrev TokenSet := Nat

namespace TokenSet

def none : TokenSet := 0

def single (n : Nat) : TokenSet := 1 <<< n

def holds (s : TokenSet) (n : Nat) : Bool := Nat.testBit s n

def union (a b : TokenSet) : TokenSet := a ||| b

def insert (s : TokenSet) (n : Nat) : TokenSet := union s (single n)

def toList (s : TokenSet) (bound : Nat) : List Nat := (List.range bound).filter (holds s)

end TokenSet

end HookLint.Grammar
