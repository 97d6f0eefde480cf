import DagConsole.Json.Basic
import DagConsole.Number.Binary
import DagConsole.Enumerated

/-! Decoders from documents to values of a type. -/
namespace DagConsole

open Number (Binary32 twoTo)

/-- Reads a value out of a document, or refuses the document. -/
abbrev Decoder (α : Type) := Document → Option α

namespace Decoder

def bool : Decoder Bool
  | .bool value => some value
  | _ => none

def string : Decoder String
  | .string text => some text
  | _ => none

/-- Reads an integer between two bounds; a number with a fraction or exponent is none. -/
def integer (low high : Int) : Decoder Int
  | .integer value => if low ≤ value ∧ value ≤ high then some value else none
  | _ => none

def int64 : Decoder Int := integer (-(twoTo 63 : Int)) (twoTo 63 - 1)

def natural64 : Decoder Nat := fun doc => (integer 0 (twoTo 64 - 1) doc).map Int.toNat

/-- Reads any number, rounded to single precision. -/
def single : Decoder Binary32
  | .integer value => some (Binary32.ofInt value)
  | .float value => some (Binary32.ofBinary64 value)
  | _ => none

def value : Decoder Json := Document.value?

/-- Reads null as no value. -/
def nullable (decode : Decoder α) : Decoder (Option α)
  | .null => some none
  | doc => (decode doc).map some

def list (decode : Decoder α) : Decoder (List α)
  | .array items => items.mapM decode
  | _ => none

/-- Reads an object as a map; of several members with equal keys the last one counts. -/
def map [Ord κ] [Std.TransOrd κ] (key : String → Option κ) (decode : Decoder α) :
    Decoder (FinMap κ α)
  | .object members => do
    let entries ← members.mapM fun (name, doc) => do return (← key name, ← decode doc)
    return FinMap.ofList entries
  | _ => none

/-- Reads an object whose members may hold anything. -/
def valueMap : Decoder (FinMap String Json) := map some value

/-- Reads a member of an enumeration: its name, or an object that maps its name to null. -/
def member [Enumerated α] : Decoder α
  | .string name => Enumerated.ofName? name
  | .object [(name, .null)] => Enumerated.ofName? name
  | _ => none

/-- The fields that a document gives for a record, at most one of each name. -/
structure Fields where
  given : List (String × Document)
  /-- Whether they were given as a list, in which only fields with a default may be left out. -/
  positional : Bool

/-- The fields of a record. An object gives them by name, its unknown members are ignored and its
known ones may not repeat; a list gives them in order and may not be longer than the record. -/
def fields (names : List String) : Decoder Fields
  | .array items => if items.length ≤ names.length then some ⟨names.zip items, true⟩ else none
  | .object members =>
    let known := members.filter fun member => names.contains member.1
    if (known.map Prod.fst).Nodup then some ⟨known, false⟩ else none
  | _ => none

namespace Fields

def required (fields : Fields) (name : String) (decode : Decoder α) : Option α :=
  (fields.given.lookup name).bind decode

/-- A field that takes a default value when it is left out. -/
def withDefault (fields : Fields) (name : String) (default : α) (decode : Decoder α) : Option α :=
  match fields.given.lookup name with
  | some doc => decode doc
  | none => some default

/-- A field that may be null or left out. -/
def optional (fields : Fields) (name : String) (decode : Decoder α) : Option (Option α) :=
  fields.withDefault name none (nullable decode)

/-- A field that may be null, and left out where fields are given by name. -/
def named (fields : Fields) (name : String) (decode : Decoder α) : Option (Option α) :=
  if fields.positional then fields.required name (nullable decode) else fields.optional name decode

end Fields

end Decoder

end DagConsole
