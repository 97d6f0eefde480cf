import DagConsole.Json.Decoder
import DagConsole.Proofs.Json.Values

/-! Decoders that read again what is written for the values that they have read. Documents come in many shapes, and what
is written has one, so a decoder reads back less than it accepts. -/
namespace DagConsole

open Decoder (Fields)

variable {α κ : Type} {decode : Decoder α} {encode : α → Json}

/-- A value is read from what is written for it. -/
def ReadsBack (decode : Decoder α) (encode : α → Json) (value : α) : Prop :=
  decode (encode value).toDocument = some value

/-- Every value that a decoder can read at all is read from what is written for it. -/
def Restores (decode : Decoder α) (encode : α → Json) : Prop :=
  ∀ ⦃doc value⦄, decode doc = some value → ReadsBack decode encode value

/-- The members of an enumeration are told apart by their names. -/
class LawfulEnumerated (α : Type) [Enumerated α] : Prop where
  ofName?_name : ∀ member : α, Enumerated.ofName? (Enumerated.name member) = some member

namespace Decoder

theorem bool_restores : Restores bool .bool := fun _ _ _ => rfl

theorem string_restores : Restores string .string := fun _ _ _ => rfl

theorem bounds_of_integer {low high n : Int} {doc : Document} (read : integer low high doc = some n) :
    low ≤ n ∧ n ≤ high := by
  match doc, read with
  | .integer m, read =>
    simp only [integer, Option.ite_none_right_eq_some, Option.some.injEq] at read
    obtain ⟨bounds, rfl⟩ := read
    exact bounds

/-- An integer that was read is within the bounds, and is so when it is read again. -/
theorem integer_restores (low high : Int) : Restores (integer low high) .integer := fun _ _ read =>
  if_pos (bounds_of_integer read)

theorem int64_restores : Restores int64 .integer := integer_restores _ _

theorem natural64_restores : Restores natural64 .ofNat := by
  intro doc n read
  obtain ⟨m, whole, rfl⟩ := Option.map_eq_some_iff.mp read
  have positive := (bounds_of_integer whole).1
  rw [ReadsBack, Json.ofNat, Int.toNat_of_nonneg positive, natural64, integer_restores _ _ whole, Option.map_some]

theorem member_restores [Enumerated α] [LawfulEnumerated α] :
    Restores (member (α := α)) fun value => .string (Enumerated.name value) :=
  fun _ value _ => LawfulEnumerated.ofName?_name value

/-- Where null is refused, it stands for no value only. -/
theorem nullable_of_read {doc : Document} {value : α} (refuses : decode .null = none) (read : decode doc = some value) :
    nullable decode doc = some (some value) := by
  cases doc with
  | null =>
    rw [refuses] at read
    cases read
  | _ => rw [nullable, read, Option.map_some]; nofun

theorem read_of_nullable {doc : Document} {value : α} (read : nullable decode doc = some (some value)) :
    ∃ doc, decode doc = some value := by
  cases doc with
  | null => cases read
  | _ =>
    obtain ⟨_, here, same⟩ := Option.map_eq_some_iff.mp read
    cases same
    exact ⟨_, here⟩

theorem list_restores (items : Restores decode encode) :
    Restores (list decode) fun values => .array (values.map encode) := by
  intro doc values read
  match doc, read with
  | .array docs, read =>
    have each : ∀ value ∈ values, decode (encode value).toDocument = some value := by
      intro value member
      obtain ⟨_, _, here⟩ := mem_of_mapM read member
      exact items here
    rw [ReadsBack, Json.toDocument, Json.itemDocuments_eq, List.map_map]
    exact mapM_map each

section Maps

variable [Ord κ] [Std.TransOrd κ] [Std.LawfulEqOrd κ] {key : String → Option κ} {text : κ → String} {m : FinMap κ α}

/-- An entry of a map stems from a member of the object. -/
theorem member_of_map {members : List (String × Document)} (read : map key decode (.object members) = some m) {k : κ}
    {value : α} (entry : (k, value) ∈ m.entries) :
    ∃ member ∈ members, key member.1 = some k ∧ decode member.2 = some value := by
  obtain ⟨entries, each, filled⟩ := Option.bind_eq_some_iff.mp read
  cases filled
  obtain ⟨item, inside, here⟩ := mem_of_mapM each (FinMap.mem_of_find?_ofList (FinMap.find?_eq_some_iff.mpr entry))
  simp only [Option.bind_eq_bind, Option.bind_eq_some_iff, Option.pure_def, Option.some.injEq] at here
  obtain ⟨_, spelled, _, read, same⟩ := here
  cases same
  exact ⟨item, inside, spelled, read⟩

/-- Members that are written for the entries of a map are read as that map, in whatever order they are. -/
theorem map_of_perm {fields : List (String × Json)} (keys : ∀ k, key (text k) = some k)
    (restored : ∀ entry ∈ m.entries, ReadsBack decode encode entry.2)
    (same : fields.Perm (m.entries.map fun entry => (text entry.1, encode entry.2))) :
    map key decode (.object (Json.memberDocuments fields)) = some m := by
  have order := same.map fun field => (field.1, field.2.toDocument)
  rw [List.map_map] at order
  have each : (m.entries.map fun entry => (text entry.1, (encode entry.2).toDocument)).mapM
      (fun member => do return (← key member.1, ← decode member.2)) = some m.entries := by
    refine mapM_map fun entry member => ?_
    have value : decode (encode entry.2).toDocument = some entry.2 := restored entry member
    simp only [keys, value, Option.bind_eq_bind, Option.bind_some, Option.pure_def]
  obtain ⟨again, read, order⟩ := mapM_of_perm order each
  rw [Json.memberDocuments]
  exact Option.bind_eq_some_iff.mpr ⟨again, read, congrArg some (FinMap.ofList_eq_of_perm_entries order)⟩

/-- Keys may be spelled in several ways, but each of them has one text that is written for it. -/
theorem map_restores (keys : ∀ k, key (text k) = some k) (values : Restores decode encode) :
    Restores (map key decode) fun m => .ofFields (m.entries.map fun entry => (text entry.1, encode entry.2)) := by
  intro doc m read
  match doc, read with
  | .object members, read =>
    have restored : ∀ entry ∈ m.entries, ReadsBack decode encode entry.2 := by
      intro entry member
      obtain ⟨_, _, _, here⟩ := member_of_map read member
      exact values here
    have injective : Function.Injective text := fun k other same =>
      Option.some.inj ((keys k).symm.trans ((congrArg key same).trans (keys other)))
    have distinct : ((m.entries.map fun entry => (text entry.1, encode entry.2)).map Prod.fst).Nodup := by
      have own : (m.keys.map text).Nodup := m.nodup_keys.map injective
      rw [FinMap.keys, List.map_map] at own
      rwa [List.map_map]
    rw [ReadsBack, Json.toDocument_ofFields]
    exact map_of_perm keys restored (FinMap.entries_ofList_perm distinct)

/-- The values of an object are read back as they are. -/
theorem valueMap_of_perm {m : FinMap String Json} {fields : List (String × Json)} (same : fields.Perm m.entries) :
    valueMap (.object (Json.memberDocuments fields)) = some m := by
  have restored : ∀ entry ∈ m.entries, ReadsBack value id entry.2 := fun entry _ => entry.2.value?_toDocument
  exact map_of_perm (fun _ => rfl) restored (same.trans (.of_eq (List.map_id _).symm))

theorem valueMap_restores : Restores valueMap Json.ofMap := by
  intro _ m _
  rw [ReadsBack, Json.toDocument_ofMap]
  exact valueMap_of_perm (.refl _)

end Maps

end Decoder

end DagConsole
