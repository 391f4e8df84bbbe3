import HookLint.Number.Double

/-!
Shortest decimals: the fewest digits that still read back as the same double, and of those the
nearest to its value.
-/
namespace HookLint.Number

structure Decimal where
  digits : Nat
  exponent : Int
deriving DecidableEq, Repr, Inhabited

/-- Exact bounds of the numbers that round to a double, and its value, all in units of
`2 ^ (exponent - 2)`. The ends belong to it when the mantissa is even. -/
structure Neighbourhood where
  low : Nat
  value : Nat
  high : Nat
  closed : Bool

def Double.neighbourhood (x : Double) : Neighbourhood where
  low := 4 * x.mantissa - (if 2 * x.mantissa = mantissaLimit ∧ -1074 < x.exponent then 1 else 2)
  value := 4 * x.mantissa
  high := 4 * x.mantissa + 2
  closed := x.mantissa % 2 = 0

/-- Whether `d / scale` lies inside. -/
def Neighbourhood.holds (b : Neighbourhood) (d scale : Nat) : Bool :=
  if b.closed then b.low * scale ≤ d && d ≤ b.high * scale else b.low * scale < d && d < b.high * scale

/-- The multiple of `10 ^ k` in the neighbourhood of a double that is nearest to it. -/
def multipleOf? (x : Double) (k : Int) : Option Decimal :=
  let b := x.neighbourhood
  let e := x.exponent - 2
  /- `grid / scale` is the distance of the multiples in units of `2 ^ e`. -/
  let grid := (if 0 ≤ k then power 10 k else 1) * (if e < 0 then power 2 e else 1)
  let scale := (if k < 0 then power 10 k else 1) * (if 0 ≤ e then power 2 e else 1)
  let d := b.value * scale / grid
  let below := b.value * scale - d * grid
  let above := (d + 1) * grid - b.value * scale
  match b.holds (d * grid) scale, b.holds ((d + 1) * grid) scale with
  | true, true =>
    if below < above || (below == above && d % 2 == 0) then some ⟨d, k⟩ else some ⟨d + 1, k⟩
  | true, false => some ⟨d, k⟩
  | false, true => some ⟨d + 1, k⟩
  | false, false => none

/-- Decimal exponents from the largest that a double can need downwards. -/
def decimalExponents : List Int := (List.range 650).map fun (i : Nat) => (309 : Int) - i

def Double.shortest (x : Double) : Decimal :=
  if x.isZero then ⟨0, 0⟩ else (decimalExponents.findSome? (multipleOf? x)).getD ⟨0, 0⟩

end HookLint.Number
