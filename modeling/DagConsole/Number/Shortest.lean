import DagConsole.Number.Binary

/-! The shortest decimal numeral that reads back as a given double. -/
namespace DagConsole.Number

/-- A decimal value `digits * 10 ^ exponent`. -/
structure Decimal where
  digits : Nat
  exponent : Int
deriving DecidableEq

/-- The positive reals that round to a double, as numerators over one denominator. -/
structure RoundingInterval where
  low : Nat
  value : Nat
  high : Nat
  denominator : Nat
  closed : Bool

/-- The interval of a positive finite encoding. Its ends are half-way to the neighbours, and they
belong to it exactly when the significand is even. -/
def RoundingInterval.ofEncoding (encoding : Nat) : RoundingInterval :=
  let (m, e) := binary64.decode encoding
  let below := if m = twoTo 52 ∧ binary64.leastExponent < e then 1 else 2
  let up := twoTo (e - 2).toNat
  ⟨(4 * m - below) * up, 4 * m * up, (4 * m + 2) * up, twoTo (2 - e).toNat, m % 2 == 0⟩

namespace RoundingInterval

/-- Whether `digits * 10 ^ exponent` lies in the interval. -/
def contains (i : RoundingInterval) (d : Decimal) : Bool :=
  let scaled := d.digits * tenTo d.exponent.toNat * i.denominator
  let low := i.low * tenTo (-d.exponent).toNat
  let high := i.high * tenTo (-d.exponent).toNat
  if i.closed then low ≤ scaled && scaled ≤ high else low < scaled && scaled < high

/-- The number of digits before the point, negative for zeros that follow it. -/
def magnitude (i : RoundingInterval) : Int :=
  let guess : Int := (i.value.log2 - i.denominator.log2 : Int) * 30103 / 100000
  let reaches (n : Int) : Bool :=
    i.denominator * tenTo n.toNat ≤ i.value * tenTo (-n).toNat
  if reaches (guess + 1) then guess + 2 else if reaches guess then guess + 1 else guess

/-- The neighbours of the value on the grid of `count` significant digits that lie in the interval,
the nearer one first; a tie goes to the even one. -/
def onGrid (i : RoundingInterval) (count : Nat) : Option Decimal :=
  let exponent := i.magnitude - count
  let num := i.value * tenTo (-exponent).toNat
  let den := i.denominator * tenTo exponent.toNat
  let below := num / den
  let twice := 2 * (num % den)
  let candidates :=
    if twice < den || (twice == den && below % 2 == 0) then [below, below + 1]
    else [below + 1, below]
  (candidates.map (Decimal.mk · exponent)).find? i.contains

/-- The first grid, from `count` digits on, with a point in the interval. -/
def firstOnGrid (i : RoundingInterval) : Nat → Nat → Decimal
  | 0, _ => ⟨0, 0⟩
  | grids + 1, count =>
    match i.onGrid count with
    | some d => d
    | none => i.firstOnGrid grids (count + 1)

end RoundingInterval

/-- Moves trailing zeros of the digits into the exponent. -/
def Decimal.stripZeros : Nat → Decimal → Decimal
  | 0, d => d
  | fuel + 1, d =>
    if d.digits % 10 = 0 ∧ d.digits ≠ 0 then stripZeros fuel ⟨d.digits / 10, d.exponent + 1⟩ else d

/-- The fewest digits that read back as the double with this magnitude; 17 always suffice. -/
def shortest (encoding : Nat) : Decimal :=
  Decimal.stripZeros 18 ((RoundingInterval.ofEncoding encoding).firstOnGrid 17 1)

end DagConsole.Number
