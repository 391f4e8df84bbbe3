/-!
Numbers of double precision: `mantissa * 2 ^ exponent`, at most 53 bits of mantissa and an exponent of
at least -1074. Every operation rounds the exact result once, a half goes to the even neighbour.
-/
namespace HookLint.Number

structure Double where
  mantissa : Nat
  exponent : Int
deriving DecidableEq, Repr, Inhabited

/-- The integer nearest to `n / d`, the even one of two. -/
def roundDiv (n d : Nat) : Nat :=
  let q := n / d
  let r := n % d
  if 2 * r < d then q
  else if d < 2 * r then q + 1
  else if q % 2 = 0 then q else q + 1

/-- A base to the size of an exponent, whatever its sign. -/
def power (base : Nat) (e : Int) : Nat := Nat.pow base e.natAbs

def mantissaLimit : Nat := 0x20000000000000

namespace Double

def zero : Double := ⟨0, -1074⟩

def isZero (x : Double) : Bool := x.mantissa == 0

/-- `n / d` in units of `2 ^ e`. -/
def unitsOf (n d : Nat) (e : Int) : Nat :=
  if e < 0 then roundDiv (n * power 2 e) d else roundDiv n (d * power 2 e)

/-- The mantissa of `n / d` at the least exponent from `e` on where it has 53 bits. -/
def fit (n d : Nat) : Nat → Int → Double
  | 0, e => ⟨unitsOf n d e, e⟩
  | tries + 1, e =>
    let m := unitsOf n d e
    if m < mantissaLimit then ⟨m, e⟩ else fit n d tries (e + 1)

/-- The double nearest to `n / d`; none when that lies beyond the largest. -/
def nearest? (n d : Nat) : Option Double :=
  if n = 0 then some zero
  else
    let x := fit n d 2 (max (-1074) ((n.log2 : Int) - d.log2 - 53))
    if x.exponent ≤ 971 then some x else none

/-- Numerator and denominator of the exact value. -/
def ratio (x : Double) : Nat × Nat :=
  if x.exponent < 0 then (x.mantissa, power 2 x.exponent) else (x.mantissa * power 2 x.exponent, 1)

def mul? (x y : Double) : Option Double :=
  nearest? (x.ratio.1 * y.ratio.1) (x.ratio.2 * y.ratio.2)

def div? (x y : Double) : Option Double :=
  nearest? (x.ratio.1 * y.ratio.2) (x.ratio.2 * y.ratio.1)

/-- The double nearest to a power of ten. -/
def tenTo (k : Nat) : Double := (nearest? (Nat.pow 10 k) 1).getD zero

/-- Multiplies by a power of ten, in steps of at most 308 places. -/
def scale? (x : Double) (k : Int) : Nat → Option Double
  | 0 => some zero
  | fuel + 1 =>
    if k.natAbs ≤ 308 then
      if 0 ≤ k then x.mul? (tenTo k.natAbs) else x.div? (tenTo k.natAbs)
    else if x.isZero then some x
    else if 0 ≤ k then none
    else
      match x.div? (tenTo 308) with
      | some y => y.scale? (k + 308) fuel
      | none => none

/-- The value of `significand * 10 ^ k`: the significand is rounded first and then scaled, so the last
bit may differ from the nearest double. -/
def ofDecimal? (significand : Nat) (k : Int) : Option Double :=
  match nearest? significand 1 with
  | some x => x.scale? k (k.natAbs / 308 + 1)
  | none => none

end Double

end HookLint.Number
