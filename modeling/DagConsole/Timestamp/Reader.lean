import DagConsole.Timestamp.Basic
import DagConsole.Json.Decoder

/-! Reading timestamps: a date, a time, an offset from universal time, and annotations that are
checked and not used. -/
namespace DagConsole.Timestamp.Reader

/-- Reads a value off the front of a text. -/
abbrev TextReader (α : Type) := List Char → Option (α × List Char)

/-- A number of exactly `count` digits. -/
def fixed (count : Nat) : TextReader Nat := fun text =>
  if count ≤ text.length then (Text.digits? (text.take count)).map (·, text.drop count) else none

/-- A number of two digits between two bounds. -/
def twoDigits (low high : Nat) : TextReader Nat := fun text => do
  let (n, rest) ← fixed 2 text
  if low ≤ n ∧ n ≤ high then some (n, rest) else none

/-- Four digits, or a sign and six digits; zero has no minus sign. -/
def year : TextReader Int := fun text =>
  let signed (negative : Bool) (rest : List Char) : Option (Int × List Char) := do
    let (n, rest) ← fixed 6 rest
    if 9999 < n ∨ (negative ∧ n = 0) then none
    else some (if negative then -(n : Int) else n, rest)
  match text with
  | '-' :: rest => signed true rest
  | '+' :: rest => signed false rest
  | _ => (fixed 4 text).map fun (n, rest) => ((n : Int), rest)

/-- A separator that must stand there, or must not. -/
def separator (present : Bool) (text : List Char) : Option (List Char) :=
  match present, text with
  | true, '-' :: rest => some rest
  | true, _ => none
  | false, '-' :: _ => none
  | false, _ => some text

/-- Year, month and day, with hyphens between them or without any. -/
def date : TextReader CalendarDate := fun text => do
  let (year, rest) ← year text
  let extended := rest.head? == some '-'
  let (month, rest) ← twoDigits 1 12 (← separator extended rest)
  let (day, rest) ← twoDigits 1 (CalendarDate.monthLength year month) (← separator extended rest)
  return (⟨year, month, day⟩, rest)

/-- Whether another part of a time follows: after a colon where colons are used, else at a digit. -/
def nextPart (extended : Bool) (text : List Char) : Option (List Char) :=
  match extended, text with
  | true, ':' :: rest => some rest
  | false, c :: _ => if c.isDigit then some text else none
  | _, _ => none

/-- An optional fraction of a second, in nanoseconds: one to nine digits after a point or a comma. -/
def fraction : TextReader Nat := fun text =>
  match text with
  | mark :: rest =>
    if mark = '.' ∨ mark = ',' then
      let digits := rest.takeWhile Char.isDigit
      if digits.isEmpty ∨ 9 < digits.length then none
      else (Text.digits? (digits ++ List.replicate (9 - digits.length) '0')).map
        (·, rest.drop digits.length)
    else some (0, text)
  | [] => some (0, text)

/-- A time of day in nanoseconds: hours, then perhaps minutes, seconds and a fraction, with colons
between them or without any. A leap second counts as the second before it. -/
def timeOfDay : TextReader Int := fun text => do
  let (hour, rest) ← twoDigits 0 23 text
  let extended := rest.head? == some ':'
  let total (minute second nanosecond : Nat) : Int :=
    (hour * 3600 + minute * 60 + min second 59) * nanosecondsPerSecond + nanosecond
  match nextPart extended rest with
  | none => return (total 0 0 0, rest)
  | some rest =>
    let (minute, rest) ← twoDigits 0 59 rest
    match nextPart extended rest with
    | none => return (total minute 0 0, rest)
    | some rest =>
      let (second, rest) ← twoDigits 0 60 rest
      let (nanosecond, rest) ← fraction rest
      return (total minute second nanosecond, rest)

/-- Whether another part of an offset follows. -/
def nextOffsetPart (extended : Bool) (text : List Char) : Option (List Char) :=
  match extended, text with
  | true, ':' :: rest => some rest
  | false, c :: d :: _ => if c.isDigit && d.isDigit then some text else none
  | _, _ => none

/-- A signed offset in seconds: hours up to 25, then perhaps minutes, seconds and a fraction of a
second, which is rounded. With `precise` unset nothing smaller than a minute may follow. -/
def offset (precise : Bool) : TextReader Int := fun text => do
  let (sign, rest) ← match text with
    | '+' :: rest => some ((1 : Int), rest)
    | '-' :: rest => some ((-1 : Int), rest)
    | _ => none
  let (hours, rest) ← twoDigits 0 25 rest
  let extended := rest.head? == some ':'
  match nextOffsetPart extended rest with
  | none => return (sign * (hours * 3600), rest)
  | some rest =>
    let (minutes, rest) ← twoDigits 0 59 rest
    let upToMinutes : Int := hours * 3600 + minutes * 60
    match nextOffsetPart extended rest with
    | none => return (sign * upToMinutes, rest)
    | some rest =>
      if !precise then none
      else
        let (seconds, rest) ← twoDigits 0 59 rest
        let (part, rest) ← fraction rest
        let total := upToMinutes + seconds + if 500000000 ≤ part then 1 else 0
        if total ≤ 93599 then return (sign * total, rest) else none

/-- The letter of universal time, or a signed offset. -/
def zone : TextReader Int
  | 'Z' :: rest | 'z' :: rest => some (0, rest)
  | text => offset true text

/-- A nonempty run of characters of a class, whose first one is of another class. -/
def run (first rest : Char → Bool) : List Char → Option (List Char)
  | [] => none
  | c :: text => if first c then some (text.dropWhile rest) else none

def isZoneStart (c : Char) : Bool := c == '_' || c == '.' || c.isAlpha

def isZoneChar (c : Char) : Bool := isZoneStart c || c == '+' || c == '-' || c.isDigit

def isKeyStart (c : Char) : Bool := c == '_' || c.isLower

def isKeyChar (c : Char) : Bool := isKeyStart c || c == '-' || c.isDigit

/-- Parts of a name or value, one or more, joined by a separator. -/
def joined (mark : Char) (part : List Char → Option (List Char)) :
    Nat → List Char → Option (List Char)
  | 0, _ => none
  | fuel + 1, text => do
    match ← part text with
    | c :: rest => if c = mark then joined mark part fuel rest else return c :: rest
    | [] => return []

def closing : List Char → Option (List Char)
  | ']' :: rest => some rest
  | _ => none

/-- Whether a bracket opens a pair of key and value and not the name of a time zone. -/
def opensPair (text : List Char) : Bool :=
  match run isZoneStart isZoneChar text with
  | some ('=' :: _) => true
  | _ => false

/-- A pair of key and value in brackets; one marked as critical is refused, since none is known. -/
def pair (critical : Bool) (text : List Char) : Option (List Char) := do
  match ← run isKeyStart isKeyChar text with
  | '=' :: rest =>
    let rest ← joined '-' (run Char.isAlphanum Char.isAlphanum) rest.length rest
    let rest ← closing rest
    if critical then none else return rest
  | _ => none

/-- A mark after an opening bracket that makes an annotation critical. -/
def criticalMark : List Char → Bool × List Char
  | '!' :: rest => (true, rest)
  | text => (false, text)

/-- Pairs in brackets up to the end of the text. -/
def pairs : Nat → List Char → Option Unit
  | _, [] => some ()
  | 0, _ => none
  | fuel + 1, '[' :: text => do
    let (critical, rest) := criticalMark text
    pairs fuel (← pair critical rest)
  | _, _ => none

/-- Annotations in brackets up to the end of the text: a time zone first, if there is one, given by
offset or name, and then pairs of key and value. -/
def annotations (text : List Char) : Option Unit :=
  match text with
  | '[' :: inner => do
    let (_, rest) := criticalMark inner
    if rest.head? = some '+' ∨ rest.head? = some '-' then
      let (_, rest) ← offset false rest
      pairs text.length (← closing rest)
    else if opensPair rest then pairs text.length text
    else
      let rest ← joined '/' (run isZoneStart isZoneChar) rest.length rest
      pairs text.length (← closing rest)
  | _ => pairs text.length text

/-- Reads a whole timestamp. -/
def timestamp? (text : List Char) : Option Timestamp := do
  let (date, rest) ← date text
  let rest ← match rest with
    | mark :: rest => if mark = 'T' ∨ mark = 't' ∨ mark = ' ' then some rest else none
    | [] => none
  let (time, rest) ← timeOfDay rest
  let (offset, rest) ← zone rest
  annotations rest
  let instant := (date.toDays * secondsPerDay - offset) * nanosecondsPerSecond + time
  if earliest ≤ instant ∧ instant ≤ latest then some ⟨instant⟩ else none

end DagConsole.Timestamp.Reader

namespace DagConsole.Timestamp

def ofText? (text : String) : Option Timestamp := Reader.timestamp? text.toList

def toJson (t : Timestamp) : Json := .string t.text

def decode : Decoder Timestamp
  | .string text => ofText? text
  | _ => none

end DagConsole.Timestamp
