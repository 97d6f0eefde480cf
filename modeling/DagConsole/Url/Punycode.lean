import DagConsole.Sorting

/-! Punycode, the spelling of Unicode labels in ASCII.

The characters beyond ASCII are sorted by code point, and each is told by its distance from the one
before, counted over all places where it might have been inserted. A distance is a numeral in base 36
with the lowest digit first, and thresholds that follow the size of recent distances tell where it
ends. -/
namespace DagConsole.Punycode

def digit (value : Nat) : Char :=
  if value < 26 then Char.ofNat ('a'.toNat + value) else Char.ofNat ('0'.toNat + value - 26)

def digitValue? (c : Char) : Option Nat :=
  if 'a' ≤ c ∧ c ≤ 'z' then some (c.toNat - 'a'.toNat)
  else if 'A' ≤ c ∧ c ≤ 'Z' then some (c.toNat - 'A'.toNat)
  else if c.isDigit then some (c.toNat - '0'.toNat + 26)
  else none

/-- The threshold of the digit at a position, for a bias that follows recent distances. -/
def threshold (position bias : Nat) : Nat := max 1 (min 26 (position - bias))

theorem one_le_threshold (position bias : Nat) : 1 ≤ threshold position bias := by
  unfold threshold; omega

/-- Scales a distance down below a limit and counts the positions that takes. -/
def scaleDown (delta positions : Nat) : Nat × Nat :=
  if 455 < delta then scaleDown (delta / 35) (positions + 36) else (delta, positions)
termination_by delta

/-- The bias after a distance, when a number of characters are in place. -/
def adapt (delta count : Nat) (first : Bool) : Nat :=
  let delta := if first then delta / 700 else delta / 2
  let (delta, positions) := scaleDown (delta + delta / count) 0
  positions + 36 * delta / (delta + 38)

/-- The digits of a distance. -/
def digits (bias position distance : Nat) : List Char :=
  let t := threshold position bias
  if distance < t then [digit distance]
  else
    digit (t + (distance - t) % (36 - t)) :: digits bias (position + 36) ((distance - t) / (36 - t))
termination_by distance
decreasing_by
  have low := one_le_threshold position bias
  calc (distance - threshold position bias) / (36 - threshold position bias)
      ≤ distance - threshold position bias := Nat.div_le_self _ _
    _ < distance := by omega

/-- What has been written so far. -/
structure Progress where
  written : List Char := []
  delta : Nat := 0
  bias : Nat := 72
  /-- The number of characters in place. -/
  count : Nat

/-- Goes over one character of the text while those of one code point are put in place. -/
def passOver (basic codePoint : Nat) (p : Progress) (c : Char) : Progress :=
  if c.toNat < codePoint then { p with delta := p.delta + 1 }
  else if c.toNat = codePoint then
    { written := p.written ++ digits p.bias 36 p.delta, delta := 0,
      bias := adapt p.delta (p.count + 1) (p.count == basic), count := p.count + 1 }
  else p

/-- Puts the characters of ascending code points in place. -/
def insertAll (text : List Char) (basic next : Nat) : List Nat → Progress → Progress
  | [], p => p
  | codePoint :: rest, p =>
    let p := { p with delta := p.delta + (codePoint - next) * (p.count + 1) }
    let p := text.foldl (passOver basic codePoint) p
    insertAll text basic (codePoint + 1) rest { p with delta := p.delta + 1 }

/-- The spelling of a label: its ASCII characters, a hyphen if there are any, and the distances. -/
def encode (text : List Char) : List Char :=
  let basic := text.filter fun c => c.toNat < 0x80
  let others := (text.filter fun c => 0x80 ≤ c.toNat).map Char.toNat
  let codePoints := (Sorting.sortBy Nat.ble others).eraseDups
  basic ++ (if basic.isEmpty then [] else ['-']) ++
    (insertAll text basic.length 0x80 codePoints { count := basic.length }).written

/-- Reads a distance, of which some digits have been read and the next one has a weight. Weights
have 32 bits. -/
def distance? (bias : Nat) : List Char → Nat → Nat → Nat → Option (Nat × List Char)
  | [], _, _, _ => none
  | c :: rest, position, weight, sum => do
    let value ← digitValue? c
    let t := threshold position bias
    if value < t then return (sum + value * weight, rest)
    else if weight * (36 - t) < 4294967296 then
      distance? bias rest (position + 36) (weight * (36 - t)) (sum + value * weight)
    else none

/-- Puts the characters that a list of distances tells into a text. -/
def place? : Nat → List Char → Nat → Nat → Nat → List Char → Option (List Char)
  | _, [], _, _, _, text => some text
  | 0, _ :: _, _, _, _, _ => none
  | fuel + 1, spelling, codePoint, index, bias, text => do
    let (distance, rest) ← distance? bias spelling 36 1 0
    let count := text.length + 1
    let place := index + distance
    let codePoint := codePoint + place / count
    let index := place % count
    if codePoint.isValidChar then
      let text := text.take index ++ Char.ofNat codePoint :: text.drop index
      place? fuel rest codePoint (index + 1) (adapt distance count (place == distance)) text
    else none

/-- Splits a spelling at the last hyphen that has characters before it. -/
def splitAtHyphen (spelling : List Char) : List Char × List Char :=
  let distances := (spelling.reverse.takeWhile (· != '-')).reverse
  match spelling.take (spelling.length - distances.length - 1) with
  | [] => ([], spelling)
  | basic => (basic, distances)

/-- The label that a spelling stands for. -/
def decode? (spelling : List Char) : Option (List Char) :=
  let (basic, distances) := splitAtHyphen spelling
  if basic.all fun c => c.toNat < 0x80 then place? distances.length distances 0x80 0 72 basic
  else none

end DagConsole.Punycode
