import DagConsole.Json.Decoder
import DagConsole.Text.Numeral

/-! Identifiers: 128-bit numbers with a canonical text form and several accepted spellings. -/
namespace DagConsole

/-- What an identifier names. -/
inductive IdKind where
  | workflow
  | dag
  | dagResult
  | operator
  | artifact
  | node
deriving DecidableEq

/-- An identifier of one kind of thing. -/
structure Id (kind : IdKind) where
  bits : BitVec 128
deriving DecidableEq, Inhabited

abbrev WorkflowId := Id .workflow
/-- The identifier of one deployed version of a workflow. -/
abbrev DagId := Id .dag
/-- The identifier of one run of a version. -/
abbrev DagResultId := Id .dagResult
abbrev OperatorId := Id .operator
abbrev ArtifactId := Id .artifact
/-- The identifier of anything drawn on the canvas, operator or artifact. -/
abbrev NodeId := Id .node

namespace Id

variable {kind : IdKind}

instance : Ord (Id kind) where
  compare a b := compare a.bits b.bits

instance : Std.TransOrd (Id kind) where
  eq_swap {a b} :=
    (Std.OrientedCmp.eq_swap : compare a.bits b.bits = (compare b.bits a.bits).swap)
  isLE_trans {a _ c} ab bc :=
    (Std.TransCmp.isLE_trans ab bc : (compare a.bits c.bits).isLE)

instance : Std.LawfulEqOrd (Id kind) where
  compare_self {a} := (Std.ReflCmp.compare_self : compare a.bits a.bits = .eq)
  eq_of_compare {a b} same := by
    have bits : a.bits = b.bits := Std.LawfulEqOrd.eq_of_compare same
    cases a; cases b; exact congrArg Id.mk bits

/-- The identifier of the same number for any node. -/
def node (id : Id kind) : NodeId := ⟨id.bits⟩

/-- The identifier of the same number for an operator. -/
def operator (id : Id kind) : OperatorId := ⟨id.bits⟩

/-- The identifier of the same number for an artifact. -/
def artifact (id : Id kind) : ArtifactId := ⟨id.bits⟩

/-- Thirty-two digits in groups of 8, 4, 4, 4 and 12, joined by hyphens. -/
def text (id : Id kind) : String :=
  let digits := Text.hexDigits 32 id.bits.toNat
  let group (start count : Nat) : List Char := (digits.drop start).take count
  String.ofList (group 0 8 ++ '-' :: group 8 4 ++ '-' :: group 12 4 ++ '-' :: group 16 4 ++
    '-' :: group 20 12)

/-- Reads thirty-two hexadecimal digits. -/
def ofDigits? (digits : List Char) : Option (Id kind) :=
  if digits.length = 32 then (Text.hexNumber? digits).map fun n => ⟨BitVec.ofNat 128 n⟩ else none

/-- Reads the hyphenated form, with digits of either case. -/
def ofHyphenated? (form : List Char) : Option (Id kind) :=
  if form.length = 36 ∧ [8, 13, 18, 23].all (form[·]? == some '-') then
    ofDigits? (form.take 8 ++ (form.drop 9).take 4 ++ (form.drop 14).take 4 ++
      (form.drop 19).take 4 ++ form.drop 24)
  else none

/-- Reads an identifier: its digits alone, or the hyphenated form, which may also stand in braces or
after `urn:uuid:`. -/
def ofText? (text : String) : Option (Id kind) :=
  let form := text.toList
  match form.length with
  | 32 => ofDigits? form
  | 36 => ofHyphenated? form
  | 38 => if form.head? = some '\x7b' ∧ form.getLast? = some '\x7d' then
      ofHyphenated? ((form.drop 1).take 36) else none
  | 45 => if (form.take 9).map Char.toLower = "urn:uuid:".toList then
      ofHyphenated? (form.drop 9) else none
  | _ => none

def toJson (id : Id kind) : Json := .string id.text

def decode : Decoder (Id kind)
  | .string text => ofText? text
  | _ => none

end Id

instance {kind : IdKind} : ToString (Id kind) := ⟨Id.text⟩

/-- Writes a map keyed by identifiers as an object. -/
def FinMap.toJson {kind : IdKind} (encode : α → Json) (m : FinMap (Id kind) α) : Json :=
  .ofFields (m.entries.map fun entry => (entry.1.text, encode entry.2))

end DagConsole
