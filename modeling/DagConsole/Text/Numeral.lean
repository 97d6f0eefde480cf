/-! Decimal numerals of bounded integers. -/
namespace DagConsole.Text

/-- The value of a nonempty run of decimal digits. -/
def digits? (text : List Char) : Option Nat :=
  if text.isEmpty then none
  else text.foldlM (fun n c => if c.isDigit then some (10 * n + (c.toNat - '0'.toNat)) else none) 0

/-- Reads an unsigned numeral of at most `bound`: digits, perhaps after a plus sign. -/
def unsigned? (bound : Nat) (text : List Char) : Option Nat :=
  let digits := match text with
    | '+' :: rest => rest
    | _ => text
  (digits? digits).filter (· ≤ bound)

/-- Reads a signed numeral between `low` and `high`: digits, perhaps after a sign. -/
def signed? (low high : Int) (text : List Char) : Option Int :=
  let value := match text with
    | '-' :: rest => (digits? rest).map fun n => -(n : Int)
    | '+' :: rest => (digits? rest).map Int.ofNat
    | _ => (digits? text).map Int.ofNat
  value.filter fun n => low ≤ n && n ≤ high

/-- A decimal numeral of at least `width` digits. -/
def padded (width n : Nat) : String :=
  let digits := toString n
  String.ofList (List.replicate (width - digits.length) '0') ++ digits

/-- The digit of a value below sixteen. -/
def hexDigit (n : Nat) : Char :=
  if n < 10 then Char.ofNat ('0'.toNat + n) else Char.ofNat ('a'.toNat + (n - 10))

/-- The value of a hexadecimal digit of either case. -/
def hexValue? (c : Char) : Option Nat :=
  if c.isDigit then some (c.toNat - '0'.toNat)
  else if 'a' ≤ c ∧ c ≤ 'f' then some (c.toNat - 'a'.toNat + 10)
  else if 'A' ≤ c ∧ c ≤ 'F' then some (c.toNat - 'A'.toNat + 10)
  else none

/-- The last `width` hexadecimal digits of a number, highest digit first. -/
def hexDigits : Nat → Nat → List Char
  | 0, _ => []
  | width + 1, n => hexDigits width (n / 16) ++ [hexDigit (n % 16)]

/-- Reads a run of hexadecimal digits. -/
def hexNumber? (text : List Char) : Option Nat :=
  text.foldlM (fun n c => (hexValue? c).map (16 * n + ·)) 0

end DagConsole.Text
