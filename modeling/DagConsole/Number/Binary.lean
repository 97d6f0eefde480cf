import DagConsole.Number.Rounding

/-! Floating-point numbers as bit patterns, with exact rounding. -/
namespace DagConsole.Number

/-- A double-precision number. -/
structure Binary64 where
  bits : UInt64
deriving DecidableEq, Inhabited

namespace Binary64

def ofEncoding (negative : Bool) (encoding : Nat) : Binary64 :=
  ⟨(encoding + if negative then twoTo 63 else 0).toUInt64⟩

/-- The double nearest to a fraction with the given sign; the sign of zero is kept. -/
def ofFraction (negative : Bool) (num den : Nat) : Binary64 :=
  ofEncoding negative (binary64.round num den)

def infinity (negative : Bool) : Binary64 := ofEncoding negative binary64.infinity

def nan : Binary64 := ⟨0x7FF8000000000000⟩

def negative (x : Binary64) : Bool := twoTo 63 ≤ x.bits.toNat

/-- The encoding of the absolute value. -/
def encoding (x : Binary64) : Nat := x.bits.toNat % twoTo 63

def isFinite (x : Binary64) : Bool := x.encoding < binary64.infinity

def isNaN (x : Binary64) : Bool := binary64.infinity < x.encoding

/-- The absolute value of a finite double as a fraction. -/
def fraction (x : Binary64) : Nat × Nat := binary64.fraction x.encoding

/-- The absolute value of a finite double, multiplied by a fraction and rounded. -/
def scale (x : Binary64) (num den : Nat) : Nat :=
  binary64.round (x.fraction.1 * num) (x.fraction.2 * den)

end Binary64

/-- A single-precision number. -/
structure Binary32 where
  bits : UInt32
deriving DecidableEq, Inhabited

namespace Binary32

def ofEncoding (negative : Bool) (encoding : Nat) : Binary32 :=
  ⟨(encoding + if negative then twoTo 31 else 0).toUInt32⟩

def ofNat (n : Nat) : Binary32 := ofEncoding false (binary32.round n 1)

def ofInt (n : Int) : Binary32 := ofEncoding (n < 0) (binary32.round n.natAbs 1)

def negative (x : Binary32) : Bool := twoTo 31 ≤ x.bits.toNat

def encoding (x : Binary32) : Nat := x.bits.toNat % twoTo 31

def isFinite (x : Binary32) : Bool := x.encoding < binary32.infinity

/-- The single nearest to a finite double. -/
def ofBinary64 (x : Binary64) : Binary32 :=
  let (num, den) := x.fraction
  ofEncoding x.negative (binary32.round num den)

/-- The double equal to a finite single. -/
def toBinary64 (x : Binary32) : Binary64 :=
  let (num, den) := binary32.fraction x.encoding
  Binary64.ofFraction x.negative num den

end Binary32

end DagConsole.Number
