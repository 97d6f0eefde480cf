import DagConsole.Json.Basic
import DagConsole.Number.Shortest
import DagConsole.Text.Numeral

/-! Writing JSON values as text, compact or indented. -/
namespace DagConsole.Json

open Number (Binary64 shortest)

/-- The escape of a control character or of a character with a meaning in string literals. -/
def escape (c : Char) : List Char :=
  match c with
  | '"' => ['\\', '"']
  | '\\' => ['\\', '\\']
  | '\x08' => ['\\', 'b']
  | '\x0c' => ['\\', 'f']
  | '\n' => ['\\', 'n']
  | '\r' => ['\\', 'r']
  | '\t' => ['\\', 't']
  | c => if c.toNat < 0x20 then ['\\', 'u'] ++ Text.hexDigits 4 c.toNat else [c]

def quote (text : String) : String :=
  "\"" ++ String.ofList (text.toList.flatMap escape) ++ "\""

/-- The largest number of digits before the point that is written without an exponent. -/
def positionalDigits : Int := 16

/-- The largest number of zeros after the point that is written without an exponent, plus one. -/
def positionalZeros : Int := 5

/-- Writes the shortest digits of a double: positional for moderate magnitudes, always with a point
there, and otherwise with one digit before the point and a signed exponent. -/
def floatText (x : Binary64) : String :=
  let sign := if x.negative then "-" else ""
  if x.encoding = 0 then sign ++ "0.0"
  else
    let decimal := shortest x.encoding
    let digits := (toString decimal.digits).toList
    let count : Int := digits.length
    let point := count + decimal.exponent
    let zeros (n : Int) : List Char := List.replicate n.toNat '0'
    let text :=
      if 0 ≤ decimal.exponent ∧ point ≤ positionalDigits then
        digits ++ zeros decimal.exponent ++ ['.', '0']
      else if 0 < point ∧ point ≤ positionalDigits then
        digits.take point.toNat ++ '.' :: digits.drop point.toNat
      else if -positionalZeros < point ∧ point ≤ 0 then
        '0' :: '.' :: zeros (-point) ++ digits
      else
        let tail := digits.drop 1
        digits.take 1 ++ (if tail.isEmpty then [] else '.' :: tail) ++
          'e' :: (if point < 1 then [] else ['+']) ++ (toString (point - 1)).toList
    sign ++ String.ofList text

mutual

/-- The text of a value without any space. -/
def compact : Json → String
  | .null => "null"
  | .bool value => toString value
  | .integer value => toString value
  | .float value => floatText value
  | .string text => quote text
  | .array items => "[" ++ ",".intercalate (compactItems items) ++ "]"
  | .object members => "\x7b" ++ ",".intercalate (compactMembers members) ++ "\x7d"

def compactItems : List Json → List String
  | [] => []
  | item :: rest => item.compact :: compactItems rest

def compactMembers {bound : Option String} : Members bound → List String
  | .nil => []
  | .cons name value _ rest => (quote name ++ ":" ++ value.compact) :: compactMembers rest

end

/-- Lays lines out between brackets, each on a line of its own at the given indentation. -/
def block (opening closing : String) (indent : Nat) (lines : List String) : String :=
  if lines.isEmpty then opening ++ closing
  else
    let margin (n : Nat) : String := "\n" ++ String.ofList (List.replicate (2 * n) ' ')
    opening ++ margin (indent + 1) ++ ("," ++ margin (indent + 1)).intercalate lines ++
      margin indent ++ closing

mutual

/-- The text of a value with each item and member on its own line. -/
def pretty (indent : Nat) : Json → String
  | .array items => block "[" "]" indent (prettyItems indent items)
  | .object members => block "\x7b" "\x7d" indent (prettyMembers indent members)
  | scalar => scalar.compact

def prettyItems (indent : Nat) : List Json → List String
  | [] => []
  | item :: rest => item.pretty (indent + 1) :: prettyItems indent rest

def prettyMembers (indent : Nat) {bound : Option String} : Members bound → List String
  | .nil => []
  | .cons name value _ rest =>
    (quote name ++ ": " ++ value.pretty (indent + 1)) :: prettyMembers indent rest

end

end DagConsole.Json
