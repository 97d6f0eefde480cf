import DagConsole.Number.Power

/-! Rounding of exact fractions to the nearest value of a binary floating-point format. -/
namespace DagConsole.Number

/-- The quotient rounded to the nearest integer, a half to the even neighbour. -/
def roundHalfEven (num den : Nat) : Nat :=
  let quotient := num / den
  let twice := 2 * (num % den)
  if den < twice || (twice == den && quotient % 2 == 1) then quotient + 1 else quotient

/-- A binary format: how many bits a significand has, and how many the exponent field has. -/
structure Format where
  precision : Nat
  exponentBits : Nat

namespace Format

/-- The exponent of the least positive value, which is also the unit of all subnormal values. -/
def leastExponent (f : Format) : Int := 3 - (twoTo (f.exponentBits - 1) : Int) - f.precision

/-- The encoding of infinity; all finite values lie below it. -/
def infinity (f : Format) : Nat := (twoTo f.exponentBits - 1) * twoTo (f.precision - 1)

/-- The exponent of the unit in the last place of a positive fraction. -/
def unitExponent (f : Format) (num den : Nat) : Int :=
  let guess : Int := num.log2 - den.log2 - (f.precision - 1)
  let top := guess + (f.precision - 1)
  let small :=
    if 0 ≤ top then decide (num < den * twoTo top.toNat) else decide (num * twoTo (-top).toNat < den)
  max f.leastExponent (if small then guess - 1 else guess)

/-- The encoding of the value nearest to a fraction, sign aside.

Encodings of one sign ascend with the values, so a significand that rounds up to the next power of
two carries into the exponent field, and all that is too large meets infinity. -/
def round (f : Format) (num den : Nat) : Nat :=
  if num = 0 then 0
  else
    let unit := f.unitExponent num den
    let significand :=
      if 0 ≤ unit then roundHalfEven num (den * twoTo unit.toNat)
      else roundHalfEven (num * twoTo (-unit).toNat) den
    min f.infinity (significand + (unit - f.leastExponent).toNat * twoTo (f.precision - 1))

/-- The significand and exponent of a finite encoding: its value is `m * 2 ^ e`. -/
def decode (f : Format) (encoding : Nat) : Nat × Int :=
  let field := encoding / twoTo (f.precision - 1)
  let fraction := encoding % twoTo (f.precision - 1)
  if field = 0 then (fraction, f.leastExponent)
  else (fraction + twoTo (f.precision - 1), f.leastExponent + field - 1)

/-- The value of a finite encoding as a fraction. -/
def fraction (f : Format) (encoding : Nat) : Nat × Nat :=
  let (significand, exponent) := f.decode encoding
  if 0 ≤ exponent then (significand * twoTo exponent.toNat, 1)
  else (significand, twoTo (-exponent).toNat)

end Format

def binary64 : Format := ⟨53, 11⟩

def binary32 : Format := ⟨24, 8⟩

end DagConsole.Number
