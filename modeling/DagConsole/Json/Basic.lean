import DagConsole.FinMap
import DagConsole.Number.Binary

/-! JSON values, and JSON documents as they are written. -/
namespace DagConsole

open Number (Binary64)

mutual

/-- A JSON value. Numbers without fraction and exponent that fit 64 bits are integers, all others doubles. -/
inductive Json where
  | null
  | bool (value : Bool)
  | integer (value : Int)
  | float (value : Binary64)
  | string (text : String)
  | array (items : List Json)
  | object (members : Json.Members none)

/-- The members of an object in ascending order of their names, one for each name. All names lie beyond a bound, if
there is one, so a member with that name can stand in front. -/
inductive Json.Members : Option String → Type where
  | nil {bound : Option String} : Json.Members bound
  | cons {bound : Option String} (name : String) (value : Json)
      (beyond : ∀ low ∈ bound, compare low name = .lt) (rest : Json.Members (some name)) : Json.Members bound

end

instance : Inhabited Json := ⟨.null⟩

/-- A document as it is written: members keep their order and may repeat a name.

A part is `invalid` when it is well formed but stands for no value: a number beyond the doubles, a
string with half a surrogate pair or with bytes that are no text, or a container nested too deeply.
Such a part does no harm where nothing looks at it. -/
inductive Document where
  | null
  | bool (value : Bool)
  | integer (value : Int)
  | float (value : Binary64)
  | string (text : String)
  | array (items : List Document)
  | object (members : List (String × Document))
  | invalid
deriving Inhabited

namespace Json

namespace Members

variable {bound : Option String}

def entries {bound : Option String} : Members bound → List (String × Json)
  | .nil => []
  | .cons name value _ rest => (name, value) :: rest.entries

/-- What holds of no members, and of a member before others of which it holds, holds of all members. -/
@[elab_as_elim, induction_eliminator]
theorem induction {motive : (bound : Option String) → Members bound → Prop} (nil : ∀ {bound}, motive bound .nil)
    (cons : ∀ {bound} name value beyond rest, motive (some name) rest →
      motive bound (.cons name value beyond rest)) : {bound : Option String} → (members : Members bound) → motive bound members
  | _, .nil => nil
  | _, .cons name value beyond rest => cons name value beyond rest (rest.induction nil cons)

theorem beyond_entries (members : Members bound) : ∀ entry ∈ members.entries, ∀ low ∈ bound, compare low entry.1 = .lt := by
  induction members with
  | nil => exact List.forall_mem_nil _
  | cons name value beyond rest ih =>
    refine List.forall_mem_cons.mpr ⟨beyond, fun entry inside low given => ?_⟩
    exact Std.TransCmp.lt_trans (beyond low given) (ih entry inside name rfl)

theorem ascending_entries (members : Members bound) :
    members.entries.Pairwise fun a b => compare a.1 b.1 = .lt := by
  induction members with
  | nil => exact .nil
  | cons name value _ rest ih =>
    exact List.pairwise_cons.mpr ⟨fun entry inside => rest.beyond_entries entry inside name rfl, ih⟩

def toMap (members : Members bound) : FinMap String Json := ⟨members.entries, members.ascending_entries⟩

/-- The members of an ascending list of entries beyond a bound. -/
def ofEntries {bound : Option String} : (entries : List (String × Json)) →
    (∀ entry ∈ entries, ∀ low ∈ bound, compare low entry.1 = .lt) →
    entries.Pairwise (fun a b => compare a.1 b.1 = .lt) → Members bound
  | [], _, _ => .nil
  | (name, value) :: rest, beyond, ascending =>
    have after := List.pairwise_cons.mp ascending
    .cons name value (beyond _ List.mem_cons_self)
      (ofEntries rest (fun entry inside _ same => Option.some.inj same ▸ after.1 entry inside) after.2)

def ofMap (m : FinMap String Json) : Members none := ofEntries m.entries nofun m.ascending

theorem entries_ofEntries {entries : List (String × Json)}
    (beyond : ∀ entry ∈ entries, ∀ low ∈ bound, compare low entry.1 = .lt)
    (ascending : entries.Pairwise fun a b => compare a.1 b.1 = .lt) :
    (ofEntries entries beyond ascending).entries = entries := by
  induction entries generalizing bound with
  | nil => rfl
  | cons entry rest ih => exact congrArg (entry :: ·) (ih _ _)

@[simp] theorem entries_ofMap (m : FinMap String Json) : (ofMap m).entries = m.entries := entries_ofEntries _ _

@[simp] theorem toMap_ofMap (m : FinMap String Json) : (ofMap m).toMap = m := FinMap.ext_entries (entries_ofMap m)

theorem ofEntries_entries (members : Members bound) :
    ofEntries members.entries members.beyond_entries members.ascending_entries = members := by
  induction members with
  | nil => rfl
  | cons name value beyond rest ih => exact congrArg (cons name value beyond) ih

@[simp] theorem ofMap_toMap (members : Members none) : ofMap members.toMap = members := ofEntries_entries members

end Members

def ofMap (m : FinMap String Json) : Json := .object (.ofMap m)

/-- The object of a list of fields; of several fields of one name the last one counts. -/
def ofFields (fields : List (String × Json)) : Json := ofMap (.ofList fields)

/-- A field that is written only when there is a value. -/
def optional (name : String) (value : Option Json) : List (String × Json) :=
  value.toList.map (name, ·)

/-- A field that is written as null when there is no value. -/
def nullable (value : Option Json) : Json := value.getD .null

/-- A double as a value: what is no finite number is null. -/
def ofBinary64 (x : Binary64) : Json := if x.isFinite then .float x else .null

def ofNat (n : Nat) : Json := .integer n

def asString? : Json → Option String
  | .string text => some text
  | _ => none

/-- The member of an object with the given name. -/
def member? (name : String) : Json → Option Json
  | .object members => members.entries.lookup name
  | _ => none

mutual

/-- The document that spells a value out. -/
def toDocument : Json → Document
  | .null => .null
  | .bool value => .bool value
  | .integer value => .integer value
  | .float value => .float value
  | .string text => .string text
  | .array items => .array (itemDocuments items)
  | .object members => .object members.documents

def itemDocuments : List Json → List Document
  | [] => []
  | item :: rest => item.toDocument :: itemDocuments rest

def Members.documents {bound : Option String} : Members bound → List (String × Document)
  | .nil => []
  | .cons name value _ rest => (name, value.toDocument) :: rest.documents

end

/-- Fields as they are spelled out one after another, whether or not they are the members of a value. -/
def memberDocuments (fields : List (String × Json)) : List (String × Document) :=
  fields.map fun field => (field.1, field.2.toDocument)

end Json

namespace Document

mutual

/-- The value of a document: of several members of one name the last one counts. -/
def value? : Document → Option Json
  | .null => some .null
  | .bool value => some (.bool value)
  | .integer value => some (.integer value)
  | .float value => some (.float value)
  | .string text => some (.string text)
  | .array items => (itemValues? items).map .array
  | .object members => (memberValues? members).map Json.ofFields
  | .invalid => none

def itemValues? : List Document → Option (List Json)
  | [] => some []
  | item :: rest => do return (← item.value?) :: (← itemValues? rest)

def memberValues? : List (String × Document) → Option (List (String × Json))
  | [] => some []
  | (name, value) :: rest => do return (name, ← value.value?) :: (← memberValues? rest)

end

end Document

end DagConsole
