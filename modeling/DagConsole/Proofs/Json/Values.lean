import DagConsole.Json.Basic
import DagConsole.Proofs.FinMap
import Mathlib.Data.List.Perm.Basic

/-! The values of documents. Each value is read again from the document that spells it out, its members in order and
none repeated. -/
namespace DagConsole

section Options

variable {α β : Type} {f : α → Option β}

/-- A list is read item by item. -/
theorem mapM_eq_some_iff {items : List α} {values : List β} :
    items.mapM f = some values ↔ List.Forall₂ (fun item value => f item = some value) items values := by
  induction items generalizing values with
  | nil => simp [List.forall₂_nil_left_iff, eq_comm]
  | cons head rest ih =>
    simp only [List.mapM_cons, Option.bind_eq_bind, Option.bind_eq_some_iff, Option.pure_def, Option.some.injEq, ih,
      List.forall₂_cons_left_iff]
    constructor
    · rintro ⟨first, here, others, later, rfl⟩
      exact ⟨first, others, here, later, rfl⟩
    · rintro ⟨first, others, here, later, rfl⟩
      exact ⟨first, here, others, later, rfl⟩

/-- What comes out of reading a list was read from one of its items. -/
theorem mem_of_mapM {items : List α} {values : List β} (read : items.mapM f = some values) {value : β}
    (member : value ∈ values) : ∃ item ∈ items, f item = some value := by
  induction mapM_eq_some_iff.mp read with
  | nil => cases member
  | @cons item first rest others here later ih =>
    rcases List.mem_cons.mp member with rfl | inside
    · exact ⟨item, List.mem_cons_self, here⟩
    · obtain ⟨item, there, same⟩ := ih (mapM_eq_some_iff.mpr later) inside
      exact ⟨item, List.mem_cons_of_mem _ there, same⟩

/-- A list of items written for values is read as those values. -/
theorem mapM_map {write : β → α} {values : List β} (restored : ∀ value ∈ values, f (write value) = some value) :
    (values.map write).mapM f = some values :=
  mapM_eq_some_iff.mpr (List.forall₂_map_left_iff.mpr (List.forall₂_same.mpr restored))

/-- In another order the same values come out, in another order too. -/
theorem mapM_of_perm {items others : List α} {values : List β} (same : items.Perm others)
    (read : others.mapM f = some values) : ∃ again, items.mapM f = some again ∧ again.Perm values := by
  obtain ⟨again, each, order⟩ := List.perm_comp_forall₂ same (mapM_eq_some_iff.mp read)
  exact ⟨again, mapM_eq_some_iff.mpr each, order⟩

end Options

namespace Json

theorem itemDocuments_eq (items : List Json) : itemDocuments items = items.map toDocument := by
  induction items with
  | nil => rfl
  | cons item rest ih => rw [itemDocuments, ih, List.map_cons]

theorem Members.documents_eq {bound : Option String} (members : Members bound) :
    members.documents = memberDocuments members.entries := by
  induction members with
  | nil => rfl
  | cons name value _ _ ih => exact congrArg ((name, value.toDocument) :: ·) ih

theorem toDocument_ofMap (m : FinMap String Json) : (ofMap m).toDocument = .object (memberDocuments m.entries) := by
  rw [ofMap, toDocument, Members.documents_eq, Members.entries_ofMap]

theorem toDocument_ofFields (fields : List (String × Json)) :
    (ofFields fields).toDocument = .object (memberDocuments (FinMap.ofList fields).entries) := toDocument_ofMap _

theorem filter_memberDocuments (keep : String → Bool) (members : List (String × Json)) :
    (memberDocuments members).filter (fun member => keep member.1) =
      memberDocuments (members.filter fun member => keep member.1) := by
  simp only [memberDocuments, List.filter_map, Function.comp_def]

end Json

namespace Document

theorem itemValues?_eq (items : List Document) : itemValues? items = items.mapM value? := by
  induction items with
  | nil => rfl
  | cons item rest ih => simp [itemValues?, ih, List.mapM_cons]

theorem memberValues?_eq (members : List (String × Document)) :
    memberValues? members = members.mapM fun member => member.2.value?.map (member.1, ·) := by
  induction members with
  | nil => rfl
  | cons member rest ih =>
    rw [memberValues?, ih, List.mapM_cons]
    cases member.2.value? <;> rfl

end Document

namespace Json

mutual

/-- A value is read from the document that spells it out. -/
theorem value?_toDocument : (value : Json) → value.toDocument.value? = some value
  | .null | .bool _ | .integer _ | .float _ | .string _ => rfl
  | .array items => by rw [toDocument, Document.value?, itemValues?_itemDocuments items, Option.map_some]
  | .object members => by
    have entries : FinMap.ofList members.entries = members.toMap := FinMap.ofList_entries members.toMap
    rw [toDocument, Document.value?, memberValues?_documents members, Option.map_some, ofFields, entries, ofMap,
      Members.ofMap_toMap]

theorem itemValues?_itemDocuments : (items : List Json) → Document.itemValues? (itemDocuments items) = some items
  | [] => rfl
  | item :: rest => by
    rw [itemDocuments, Document.itemValues?, value?_toDocument item, itemValues?_itemDocuments rest]
    rfl

theorem memberValues?_documents : {bound : Option String} → (members : Members bound) →
    Document.memberValues? members.documents = some members.entries
  | _, .nil => rfl
  | _, .cons _ value _ rest => by
    rw [Members.documents, Document.memberValues?, value?_toDocument value, memberValues?_documents rest]
    rfl

end

end Json

end DagConsole
