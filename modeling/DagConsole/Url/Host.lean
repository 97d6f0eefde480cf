import DagConsole.Number.Power
import DagConsole.Url.Domain

/-! The hosts of URLs: names and addresses. -/
namespace DagConsole

/-- Why a text is no URL. -/
inductive UrlError where
  | emptyHost
  | invalidDomainName
  | invalidPort
  | invalidIpv4
  | invalidIpv6
  | invalidDomainCharacter
  /-- There is no scheme. -/
  | noScheme
  /-- A path is looked up in a URL that has no hierarchy of paths. -/
  | noHierarchy
deriving DecidableEq

def UrlError.text : UrlError → String
  | .emptyHost => "empty host"
  | .invalidDomainName => "invalid international domain name"
  | .invalidPort => "invalid port number"
  | .invalidIpv4 => "invalid IPv4 address"
  | .invalidIpv6 => "invalid IPv6 address"
  | .invalidDomainCharacter => "invalid domain character"
  | .noScheme => "relative URL without a base"
  | .noHierarchy => "relative URL with a cannot-be-a-base base"

/-- An IPv4 address as one number. -/
structure Ipv4 where
  value : UInt32
deriving DecidableEq

namespace Ipv4

/-- Four decimal numbers joined by points. -/
def text (address : Ipv4) : String :=
  let n := address.value.toNat
  s!"{n / 16777216}.{n / 65536 % 256}.{n / 256 % 256}.{n % 256}"

/-- Reads digits of a base. -/
def digits? (base : Nat) (text : List Char) : Option Nat :=
  text.foldlM (fun n c => do
    let value ← Text.hexValue? c
    if value < base then return base * n + value else none) 0

/-- A part of an address: hexadecimal after `0x`, octal after a zero, and else decimal. -/
def part? : List Char → Option Nat
  | [] => none
  | '0' :: 'x' :: rest | '0' :: 'X' :: rest => digits? 16 rest
  | '0' :: c :: rest => digits? 8 (c :: rest)
  | decimal => digits? 10 decimal

/-- The parts of a domain name; a point at its end does not count. -/
def parts (name : List Char) : List (List Char) :=
  let parts := Domain.labels name
  if 1 < parts.length ∧ parts.getLast? = some [] then parts.dropLast else parts

/-- Whether a domain name ends in a number and so has to be an address. -/
def endsInNumber (name : List Char) : Bool :=
  match (parts name).getLast? with
  | some last => !last.isEmpty && (last.all Char.isDigit || (part? last).isSome)
  | none => false

/-- An address of one to four parts: all but the last one are bytes, and the last one fills up. -/
def ofParts? (numbers : List Nat) : Option Ipv4 :=
  let bytes := numbers.dropLast
  match numbers.getLast? with
  | none => none
  | some last =>
    let capacity := Number.twoTo (8 * (4 - bytes.length))
    if 4 < numbers.length ∨ bytes.any (255 < ·) ∨ capacity ≤ last then none
    else
      let high := bytes.foldl (fun n byte => 256 * n + byte) 0
      some ⟨UInt32.ofNat (high * capacity + last)⟩

def ofName? (name : List Char) : Option Ipv4 := do ofParts? (← (parts name).mapM part?)

end Ipv4

/-- An IPv6 address as its eight 16-bit pieces. -/
structure Ipv6 where
  pieces : List UInt16
  eight : pieces.length = 8
deriving DecidableEq

namespace Ipv6

/-- Hexadecimal digits without leading zeros. -/
def pieceText (piece : UInt16) : String :=
  let digits := (Text.hexDigits 4 piece.toNat).dropWhile (· == '0')
  String.ofList (if digits.isEmpty then ['0'] else digits)

/-- The number of zero pieces that a list starts with. -/
def leadingZeros (pieces : List UInt16) : Nat := (pieces.takeWhile (· == 0)).length

/-- The start and length of the longest run of zero pieces; of equally long ones the first. -/
def longestZeros (pieces : List UInt16) : Nat × Nat :=
  let runs := (List.range pieces.length).map fun start => (start, leadingZeros (pieces.drop start))
  runs.foldl (fun best run => if best.2 < run.2 then run else best) (0, 0)

/-- Pieces joined by colons, with two colons for the longest run of several zeros. -/
def text (address : Ipv6) : String :=
  let joined (pieces : List UInt16) : String := ":".intercalate (pieces.map pieceText)
  let (start, count) := longestZeros address.pieces
  if count < 2 then joined address.pieces
  else joined (address.pieces.take start) ++ "::" ++ joined (address.pieces.drop (start + count))

def piece? (digits : List Char) : Option UInt16 :=
  if digits.isEmpty ∨ 4 < digits.length then none else (Text.hexNumber? digits).map UInt16.ofNat

/-- A decimal byte without leading zeros. -/
def byte? (digits : List Char) : Option Nat :=
  if 1 < digits.length ∧ digits.head? = some '0' then none
  else (Text.digits? digits).filter (· ≤ 255)

/-- The two pieces that an IPv4 address at the end stands for. -/
def embedded? (text : List Char) : Option (List UInt16) := do
  match ← (text.splitOn '.').mapM byte? with
  | [a, b, c, d] => return [UInt16.ofNat (256 * a + b), UInt16.ofNat (256 * c + d)]
  | _ => none

/-- The pieces between colons; only the last part may be an IPv4 address. -/
def pieces? (isLast : Bool) (text : List Char) : Option (List UInt16) :=
  if text.isEmpty then some []
  else do
    let parts := text.splitOn ':'
    let last := parts.getLast?.getD []
    if isLast ∧ last.contains '.' then return (← parts.dropLast.mapM piece?) ++ (← embedded? last)
    else parts.mapM piece?

/-- Splits a text at the first two colons in a row. -/
def splitAtGap : List Char → Option (List Char × List Char)
  | ':' :: ':' :: rest => some ([], rest)
  | c :: rest => (splitAtGap rest).map fun (before, after) => (c :: before, after)
  | [] => none

def ofPieces? (pieces : List UInt16) : Option Ipv6 :=
  if eight : pieces.length = 8 then some ⟨pieces, eight⟩ else none

/-- Reads an address: eight pieces, or fewer with a gap that stands for at least one zero piece. -/
def ofText? (text : List Char) : Option Ipv6 :=
  match splitAtGap text with
  | none => do ofPieces? (← pieces? true text)
  | some (before, after) => do
    let before ← pieces? false before
    let after ← pieces? true after
    let gap := 8 - before.length - after.length
    if gap = 0 then none else ofPieces? (before ++ List.replicate gap 0 ++ after)

end Ipv6

inductive Host where
  | domain (name : String)
  | ipv4 (address : Ipv4)
  | ipv6 (address : Ipv6)
deriving DecidableEq

namespace Host

/-- A URL without a host, which has an empty one, as those of files may. -/
def empty : Host := .domain ""

def text : Host → String
  | .domain name => name
  | .ipv4 address => address.text
  | .ipv6 address => "[" ++ address.text ++ "]"

/-- Reads an address in brackets, if there is an opening bracket. -/
def bracketed? : List Char → Option (Except UrlError Host)
  | '[' :: rest =>
    if rest.getLast? = some ']' then
      match Ipv6.ofText? rest.dropLast with
      | some address => some (.ok (.ipv6 address))
      | none => some (.error .invalidIpv6)
    else some (.error .invalidIpv6)
  | _ => none

/-- Reads the host of a URL whose scheme resolves names: a domain name or an address. -/
def ofText (text : List Char) : Except UrlError Host :=
  match bracketed? text with
  | some host => host
  | none =>
    match Domain.ofBytes? (Percent.decode text) with
    | none => .error .invalidDomainName
    | some name =>
      if name.isEmpty then .error .emptyHost
      else if Ipv4.endsInNumber name.toList then
        match Ipv4.ofName? name.toList with
        | some address => .ok (.ipv4 address)
        | none => .error .invalidIpv4
      else .ok (.domain name)

/-- The characters that the host of a URL of any other scheme cannot hold. -/
def isForbidden (c : Char) : Bool :=
  ['\x00', '\t', '\n', '\r', ' ', '#', '/', ':', '<', '>', '?', '@', '[', '\\', ']', '^',
    '|'].contains c

/-- Reads the host of a URL of any other scheme, which is kept as it is. -/
def ofAnyText (text : List Char) : Except UrlError Host :=
  match bracketed? text with
  | some host => host
  | none =>
    if text.any isForbidden then .error .invalidDomainCharacter
    else .ok (.domain (String.ofList (Percent.encode Percent.controls text)))

end Host

end DagConsole
