import DagConsole.Json.Basic
import DagConsole.Number.Numeral
import DagConsole.Text.Numeral

/-! Reading documents from text. -/
namespace DagConsole.Json.Reader

open Number (Binary64 Numeral takeDigits)

/-- A unit of a text that came as bytes: a character, or a byte that is part of none. -/
inductive Symbol where
  | char (c : Char)
  | stray (byte : UInt8)
deriving DecidableEq

def Symbol.isDigit : Symbol → Bool
  | .char c => c.isDigit
  | .stray _ => false

def Symbol.digit : Symbol → Nat
  | .char c => c.toNat - '0'.toNat
  | .stray _ => 0

def symbols (text : String) : List Symbol := text.toList.map .char

/-- The character whose UTF-8 form bytes start with. -/
def firstChar? (bytes : List UInt8) : Option Char :=
  [1, 2, 3, 4].findSome? fun size =>
    match (String.fromUTF8? ⟨(bytes.take size).toArray⟩).map String.toList with
    | some [c] => some c
    | _ => none

/-- The symbols of bytes, of which some at the front belong to a character already read. -/
def symbolsFrom : Nat → List UInt8 → List Symbol
  | _, [] => []
  | skip + 1, _ :: rest => symbolsFrom skip rest
  | 0, byte :: rest =>
    match firstChar? (byte :: rest) with
    | some c => .char c :: symbolsFrom (c.utf8Size - 1) rest
    | none => .stray byte :: symbolsFrom 0 rest

def symbolsOfBytes (bytes : List UInt8) : List Symbol := symbolsFrom 0 bytes

def isSpace : Symbol → Bool
  | .char ' ' | .char '\n' | .char '\t' | .char '\r' => true
  | _ => false

def skipSpace (input : List Symbol) : List Symbol := input.dropWhile isSpace

/-- The value of four hexadecimal digits. -/
def codeUnit? (a b c d : Symbol) : Option Nat :=
  match a, b, c, d with
  | .char a, .char b, .char c, .char d => Text.hexNumber? [a, b, c, d]
  | _, _, _, _ => none

/-- The character that a letter stands for after a backslash. -/
def escaped? : Char → Option Char
  | '"' => some '"'
  | '\\' => some '\\'
  | '/' => some '/'
  | 'b' => some '\x08'
  | 'f' => some '\x0c'
  | 'n' => some '\n'
  | 'r' => some '\r'
  | 't' => some '\t'
  | _ => none

/-- A part of a string literal: a character, a 16-bit unit given by its number, or a stray byte. -/
inductive Piece where
  | char (c : Char)
  | unit (value : Nat)
  | stray
deriving DecidableEq

/-- Splits a string literal into its parts, from after its opening quote to after its closing one. -/
def pieces? : List Symbol → Option (List Piece × List Symbol)
  | [] => none
  | .char '"' :: rest => some ([], rest)
  | .char '\\' :: .char 'u' :: a :: b :: c :: d :: rest => do
    let unit ← codeUnit? a b c d
    let (pieces, rest) ← pieces? rest
    return (.unit unit :: pieces, rest)
  | .char '\\' :: .char letter :: rest => do
    let c ← escaped? letter
    let (pieces, rest) ← pieces? rest
    return (.char c :: pieces, rest)
  | .char c :: rest =>
    if c.toNat < 0x20 ∨ c = '\\' then none
    else do
      let (pieces, rest) ← pieces? rest
      return (.char c :: pieces, rest)
  | .stray _ :: rest => do
    let (pieces, rest) ← pieces? rest
    return (.stray :: pieces, rest)

/-- The text of the parts of a literal. A high surrogate counts with the low one that follows it at
once; any other surrogate is half a character, and then there is no text. -/
def spell? : List Piece → Option (List Char)
  | [] => some []
  | .char c :: rest => (spell? rest).map (c :: ·)
  | .unit high :: .unit low :: rest =>
    if 0xD800 ≤ high ∧ high < 0xDC00 then
      if 0xDC00 ≤ low ∧ low < 0xE000 then
        (spell? rest).map (Char.ofNat (0x10000 + (high - 0xD800) * 0x400 + (low - 0xDC00)) :: ·)
      else none
    else if 0xDC00 ≤ high ∧ high < 0xE000 then none
    else (spell? (.unit low :: rest)).map (Char.ofNat high :: ·)
  | .unit single :: rest =>
    if 0xD800 ≤ single ∧ single < 0xE000 then none else (spell? rest).map (Char.ofNat single :: ·)
  | .stray :: _ => none

/-- Reads a string literal after its opening quote; it may spell no text. -/
def stringBody? (input : List Symbol) : Option (Option (List Char) × List Symbol) :=
  (pieces? input).map fun (pieces, rest) => (spell? pieces, rest)

/-- Reads an unsigned number; `none` stands for text that is no number. -/
def magnitude? (input : List Symbol) : Option (Numeral × Bool × List Symbol) :=
  let digits (input : List Symbol) : List Nat × List Symbol :=
    ((input.takeWhile Symbol.isDigit).map Symbol.digit, input.dropWhile Symbol.isDigit)
  let (whole, rest) := digits input
  if whole.isEmpty || (whole.head? == some 0 && whole.length > 1) then none
  else
    let (point, fraction, rest) := match rest with
      | .char '.' :: rest => (true, digits rest)
      | _ => (false, [], rest)
    if point && fraction.isEmpty then none
    else
      let (mark, rest) := match rest with
        | .char 'e' :: rest | .char 'E' :: rest => (true, rest)
        | _ => (false, rest)
      if !mark then some (⟨whole, fraction, 0⟩, !point, rest)
      else
        let (negative, rest) := match rest with
          | .char '-' :: rest => (true, rest)
          | .char '+' :: rest => (false, rest)
          | _ => (false, rest)
        let (exponent, rest) := digits rest
        if exponent.isEmpty then none
        else
          let n : Int := Numeral.ofDigits exponent
          some (⟨whole, fraction, if negative then -n else n⟩, false, rest)

/-- The document of a number: an integer when it is written as one and fits 64 bits, with or without
a sign; minus zero is a double. -/
def number (negative : Bool) (numeral : Numeral) (integral : Bool) : Document :=
  let n := Numeral.ofDigits numeral.whole
  if integral && !negative && n < Number.twoTo 64 then .integer n
  else if integral && negative && 0 < n && n ≤ Number.twoTo 63 then .integer (-(n : Int))
  else
    match numeral.scaled negative with
    | some x => .float x
    | none => .invalid

/-- The number of containers that may be nested in each other. -/
def depthLimit : Nat := 127

mutual

/-- Reads a value; `depth` more containers may be opened around what it holds. -/
def value? (fuel depth : Nat) (input : List Symbol) : Option (Document × List Symbol) :=
  match fuel with
  | 0 => none
  | fuel + 1 =>
    match input with
    | .char 'n' :: .char 'u' :: .char 'l' :: .char 'l' :: rest => some (.null, rest)
    | .char 't' :: .char 'r' :: .char 'u' :: .char 'e' :: rest => some (.bool true, rest)
    | .char 'f' :: .char 'a' :: .char 'l' :: .char 's' :: .char 'e' :: rest =>
      some (.bool false, rest)
    | .char '"' :: rest => do
      let (text, rest) ← stringBody? rest
      return (text.elim .invalid fun text => .string (String.ofList text), rest)
    | .char '[' :: rest => do
      let (items, rest) ← match skipSpace rest with
        | .char ']' :: rest => some ([], rest)
        | rest => items? fuel (depth - 1) rest
      return (if depth = 0 then .invalid else .array items, rest)
    | .char '{' :: rest => do
      let (members, rest) ← match skipSpace rest with
        | .char '}' :: rest => some (some [], rest)
        | rest => members? fuel (depth - 1) rest
      return (if depth = 0 then .invalid else members.elim .invalid .object, rest)
    | .char '-' :: rest => do
      let (numeral, integral, rest) ← magnitude? rest
      return (number true numeral integral, rest)
    | _ => do
      let (numeral, integral, rest) ← magnitude? input
      return (number false numeral integral, rest)

/-- Reads the items of an array, at least one, and its closing bracket. -/
def items? (fuel depth : Nat) (input : List Symbol) : Option (List Document × List Symbol) :=
  match fuel with
  | 0 => none
  | fuel + 1 => do
    let (item, rest) ← value? fuel depth (skipSpace input)
    match skipSpace rest with
    | .char ',' :: rest => do
      let (items, rest) ← items? fuel depth rest
      return (item :: items, rest)
    | .char ']' :: rest => return ([item], rest)
    | _ => none

/-- Reads the members of an object, at least one, and its closing brace. The result has no members
when a name spells no text. -/
def members? (fuel depth : Nat) (input : List Symbol) :
    Option (Option (List (String × Document)) × List Symbol) :=
  match fuel with
  | 0 => none
  | fuel + 1 =>
    match skipSpace input with
    | .char '"' :: rest => do
      let (name, rest) ← stringBody? rest
      match skipSpace rest with
      | .char ':' :: rest => do
        let (value, rest) ← value? fuel depth (skipSpace rest)
        let member := name.map fun name => (String.ofList name, value)
        match skipSpace rest with
        | .char ',' :: rest => do
          let (members, rest) ← members? fuel depth rest
          return (do return (← member) :: (← members), rest)
        | .char '}' :: rest => return (member.map ([·]), rest)
        | _ => none
      | _ => none
    | _ => none

end

/-- Reads one document and nothing after it but white space. Every value and every item takes a
symbol, so twice as many steps as there are symbols suffice. -/
def document? (input : List Symbol) : Option Document := do
  let (document, rest) ← value? (2 * input.length + 2) depthLimit (skipSpace input)
  match skipSpace rest with
  | [] => return document
  | _ => none

end DagConsole.Json.Reader

namespace DagConsole

/-- The document that a text spells. -/
def Document.ofText? (text : String) : Option Document := Json.Reader.document? (Json.Reader.symbols text)

/-- The document that bytes spell in UTF-8. -/
def Document.ofBytes? (bytes : List UInt8) : Option Document :=
  Json.Reader.document? (Json.Reader.symbolsOfBytes bytes)

/-- The value that a text spells. -/
def Json.ofText? (text : String) : Option Json := (Document.ofText? text).bind Document.value?

end DagConsole
