import DagConsole.Url.Domain.Direction
import DagConsole.Url.Domain.Joining
import DagConsole.Url.Percent
import DagConsole.Url.Punycode

/-! Domain names in ASCII: letters in lower case, and labels beyond ASCII in Punycode. -/
namespace DagConsole.Domain

/-- The characters that no domain name holds. -/
def isForbidden (c : Char) : Bool :=
  c.toNat ≤ 0x20 || c.toNat == 0x7F ||
    ['%', '#', '/', ':', '<', '>', '?', '@', '[', '\\', ']', '^', '|'].contains c

def isAscii (text : List Char) : Bool := text.all fun c => c.toNat < 0x80

/-- A text in the spelling that tells domain names apart: each character is replaced by the ones
that it stands for, and letters and marks are composed. -/
def folded? (text : List Char) : Option (List Char) :=
  if isAscii text then some (text.map Char.toLower)
  else do
    let images ← text.mapM fun c => Mapping.image? c.toNat
    return (Composition.composed images.flatten).map Char.ofNat

/-- The letters that open a label in Punycode. -/
def punycodeMark : List Char := ['x', 'n', '-', '-']

/-- The length that a label in Punycode may have after its mark. -/
def maxSpelling : Nat := 2000

/-- The length that a label beyond ASCII may have. -/
def maxLabel : Nat := 1000

/-- The label that a label in Punycode spells. It needs the spelling, and is folded already. -/
def unspelled? (label : List Char) : Option (List Char) :=
  if punycodeMark.isPrefixOf label then
    let spelling := label.drop punycodeMark.length
    if maxSpelling < spelling.length then none
    else (Punycode.decode? spelling).filter fun text => !isAscii text && folded? text == some text
  else some label

/-- Whether a label beyond ASCII is short enough, starts with no mark, and has joiners only where
they are of use. -/
def isSound (label : List Char) : Bool :=
  let codes := label.map Char.toNat
  label.length ≤ maxLabel && !codes.head?.any Text.isMark && Joining.fits [] codes

/-- Reads a label of a folded text. -/
def label? (text : List Char) : Option (List Char) :=
  (unspelled? text).filter fun label => !label.any isForbidden && (isAscii label || isSound label)

/-- Whether the labels of a domain name keep to the direction in which each is written, if some of
it is written from right to left. -/
def keepsDirection (labels : List (List Char)) : Bool :=
  let directions := labels.map fun label => label.map fun c => Direction.of c.toNat
  !directions.any (·.any Direction.turns) || directions.all Direction.fits

/-- A label in ASCII. -/
def spelled (label : List Char) : List Char :=
  if isAscii label then label else punycodeMark ++ Punycode.encode label

/-- The parts of a text between full stops. -/
def labels (text : List Char) : List (List Char) := text.splitOn '.'

/-- The domain name that bytes spell, in ASCII. -/
def ofBytes? (bytes : List UInt8) : Option String := do
  let text ← String.fromUTF8? ⟨bytes.toArray⟩
  let labels ← (labels (← folded? text.toList)).mapM label?
  if keepsDirection labels then return String.ofList (['.'].intercalate (labels.map spelled))
  else none

end DagConsole.Domain
