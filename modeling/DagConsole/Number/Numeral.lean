import DagConsole.Number.Binary

/-! Reading decimal numerals as doubles: exactly rounded for plain text, and by the one-step
scaling of a 64-bit significand that document numbers use. -/
namespace DagConsole.Number

/-- A decimal numeral without its sign: the digits before and after the point, and the exponent. -/
structure Numeral where
  whole : List Nat
  fraction : List Nat
  exponent : Int
deriving DecidableEq

namespace Numeral

def ofDigits (digits : List Nat) : Nat := digits.foldl (fun n d => 10 * n + d) 0

/-- The double nearest to the numeral.

A first digit more than 400 places from the point lies beyond the range of doubles, so the power of
ten is never formed for such a numeral. -/
def nearest (negative : Bool) (n : Numeral) : Binary64 :=
  let digits := n.whole ++ n.fraction
  let significand := ofDigits digits
  let exponent := n.exponent - n.fraction.length
  let leading := (digits.dropWhile (· == 0)).length + exponent
  if significand = 0 then Binary64.ofFraction negative 0 1
  else if 400 < leading then Binary64.infinity negative
  else if leading < -400 then Binary64.ofFraction negative 0 1
  else if 0 ≤ exponent then Binary64.ofFraction negative (significand * tenTo exponent.toNat) 1
  else Binary64.ofFraction negative significand (tenTo (-exponent).toNat)

/-- The largest significand that is kept exactly. -/
def significandBound : Nat := twoTo 64 - 1

/-- Adds the digits before the point to a significand; once a digit does not fit, that digit and
all later ones only raise the exponent. -/
def takeWhole (significand : Nat) : List Nat → Nat × Int
  | [] => (significand, 0)
  | d :: rest =>
    if 10 * significand + d ≤ significandBound then takeWhole (10 * significand + d) rest
    else (significand, rest.length + 1)

/-- Adds digits after the point while they fit and drops the others. -/
def takeFraction (significand : Nat) (exponent : Int) : List Nat → Nat × Int
  | [] => (significand, exponent)
  | d :: rest =>
    if 10 * significand + d ≤ significandBound then
      takeFraction (10 * significand + d) (exponent - 1) rest
    else (significand, exponent)

/-- The double nearest to a power of ten. -/
def powerOfTen (n : Nat) : Binary64 := Binary64.ofFraction false (tenTo n) 1

/-- The largest power of ten that is a finite double. -/
def largestPower : Nat := 308

/-- Divides by the largest power of ten until the exponent is in reach, then multiplies or divides
once; `none` when the value overflows. The arguments and the result are encodings of magnitudes. -/
def scaleByTen (magnitude : Nat) (exponent : Int) : Option Nat :=
  let value := Binary64.ofEncoding false magnitude
  if exponent.natAbs ≤ largestPower then
    let power := (powerOfTen exponent.natAbs).fraction
    if 0 ≤ exponent then
      let scaled := value.scale power.1 power.2
      if scaled < binary64.infinity then some scaled else none
    else some (value.scale power.2 power.1)
  else if magnitude = 0 then some 0
  else if 0 ≤ exponent then none
  else
    let power := (powerOfTen largestPower).fraction
    scaleByTen (value.scale power.2 power.1) (exponent + largestPower)
termination_by exponent.natAbs
decreasing_by simp only [largestPower] at *; omega

/-- The double for the numeral of a document, or `none` when it is too large.

The significand is the digits that fit 64 bits; it is rounded to a double and then scaled by a power
of ten, so the result may lie a unit in the last place away from the nearest double. -/
def scaled (negative : Bool) (n : Numeral) : Option Binary64 :=
  let (whole, raised) := takeWhole 0 n.whole
  let (significand, exponent) := takeFraction whole raised n.fraction
  (scaleByTen (binary64.round significand 1) (exponent + n.exponent)).map
    (Binary64.ofEncoding negative)

end Numeral

/-- Splits off a run of decimal digits. -/
def takeDigits (text : List Char) : List Nat × List Char :=
  ((text.takeWhile Char.isDigit).map fun c => c.toNat - '0'.toNat, text.dropWhile Char.isDigit)

/-- Reads what may follow the digits of a numeral: nothing, or an exponent with its sign. -/
def exponent? : List Char → Option Int
  | [] => some 0
  | mark :: rest =>
    if mark = 'e' ∨ mark = 'E' then
      let (negative, rest) := match rest with
        | '-' :: rest => (true, rest)
        | '+' :: rest => (false, rest)
        | _ => (false, rest)
      match takeDigits rest with
      | ([], _) => none
      | (digits, []) =>
        let n : Int := Numeral.ofDigits digits
        some (if negative then -n else n)
      | _ => none
    else none

/-- Reads digits with an optional point and exponent; a digit must stand on one side of the point. -/
def numeral? (text : List Char) : Option Numeral :=
  let (whole, rest) := takeDigits text
  let (fraction, rest) := match rest with
    | '.' :: rest => takeDigits rest
    | _ => ([], rest)
  if whole.isEmpty && fraction.isEmpty then none
  else (exponent? rest).map fun exponent => ⟨whole, fraction, exponent⟩

/-- Reads a number as people write it: a sign, then a numeral or a name of infinity or of no number,
in any case. -/
def readFloat? (text : List Char) : Option Binary64 :=
  let (negative, text) := match text with
    | '-' :: rest => (true, rest)
    | '+' :: rest => (false, rest)
    | _ => (false, text)
  let name := String.ofList (text.map Char.toLower)
  if name = "inf" ∨ name = "infinity" then some (Binary64.infinity negative)
  else if name = "nan" then some Binary64.nan
  else (numeral? text).map (Numeral.nearest negative)

end DagConsole.Number
