import DagConsole.Text.Numeral

/-! Percent-encoding: characters of a URL written as the bytes of their UTF-8 form. -/
namespace DagConsole.Percent

/-- The characters that some part of a URL cannot hold as they are. -/
abbrev EncodeSet := Char → Bool

/-- Control characters and everything beyond ASCII, which no part of a URL holds. -/
def controls : EncodeSet := fun c => c.toNat < 0x20 || 0x7F ≤ c.toNat

def query : EncodeSet := fun c => controls c || [' ', '\"', '#', '<', '>'].contains c

/-- The set for queries of the schemes that the URL standard singles out. -/
def specialQuery : EncodeSet := fun c => query c || c == '\''

def fragment : EncodeSet := fun c => controls c || [' ', '\"', '<', '>', '\x60'].contains c

def path : EncodeSet := fun c => fragment c || ['#', '?', '\x7b', '\x7d'].contains c

def userinfo : EncodeSet := fun c =>
  path c || ['/', ':', ';', '=', '@', '[', '\\', ']', '^', '|'].contains c

/-- A byte as a percent sign and two digits. -/
def encodeByte (byte : UInt8) : List Char :=
  '%' :: (Text.hexDigits 2 byte.toNat).map Char.toUpper

/-- Encodes the characters of a set and leaves all others as they are. -/
def encode (set : EncodeSet) (text : List Char) : List Char :=
  text.flatMap fun c => if set c then (String.utf8EncodeChar c).flatMap encodeByte else [c]

/-- The bytes of a text: each percent sign before two digits, with them, is one byte. -/
def decode : List Char → List UInt8
  | [] => []
  | '%' :: high :: low :: rest =>
    match Text.hexValue? high, Text.hexValue? low with
    | some a, some b => UInt8.ofNat (16 * a + b) :: decode rest
    | _, _ => String.utf8EncodeChar '%' ++ decode (high :: low :: rest)
  | c :: rest => String.utf8EncodeChar c ++ decode rest

end DagConsole.Percent
