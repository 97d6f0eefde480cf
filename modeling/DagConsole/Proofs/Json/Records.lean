import DagConsole.Proofs.Json.Restoring

/-! Records, which are written as objects of their fields. Each field is read by its name, so a record is restored if
its fields are. -/
namespace DagConsole

variable {α β : Type} {decode : Decoder α} {encode : α → Json} {name key : String} {written : List (String × Json)}

namespace Json

/-- The field of a name among those that are written; of several ones the last counts. -/
def field? (name : String) (written : List (String × Json)) : Option Json := (FinMap.ofList written).find? name

@[simp] theorem field?_nil : field? name [] = none := rfl

@[simp] theorem field?_append (one other : List (String × Json)) :
    field? name (one ++ other) = (field? name other).or (field? name one) := by
  simp only [field?, FinMap.find?_ofList, List.reverse_append, FinMap.lookup_append]

@[simp] theorem field?_singleton (value : Json) :
    field? name [(key, value)] = if name = key then some value else none := by
  simp only [field?, FinMap.find?_ofList, List.reverse_singleton, FinMap.lookup, List.find?_singleton, beq_iff_eq,
    Std.LawfulEqOrd.compare_eq_iff_eq]
  split <;> rfl

@[simp] theorem field?_cons (value : Json) (rest : List (String × Json)) :
    field? name ((key, value) :: rest) = (field? name rest).or (if name = key then some value else none) := by
  rw [← List.singleton_append, field?_append, field?_singleton]

@[simp] theorem field?_optional (value : Option Json) :
    field? name (optional key value) = if name = key then value else none := by
  cases value with
  | none =>
    rw [ite_self]
    rfl
  | some value => exact field?_singleton value

@[simp] theorem names_optional_subset {value : Option Json} {names : List String} :
    (optional key value).map Prod.fst ⊆ names ↔ (value.isSome → key ∈ names) := by
  cases value <;> simp [optional]

end Json

namespace Decoder.Fields

variable {fields again : Fields} {value : α}

/-- Fields that stand for what is written: each one is what is written under its name. -/
structure Spell (fields : Fields) (written : List (String × Json)) : Prop where
  named : fields.positional = false
  lookup : ∀ name, fields.given.lookup name = (Json.field? name written).map Json.toDocument

theorem lookup_map (entries : List (String × Json)) :
    (entries.map fun entry => (entry.1, entry.2.toDocument)).lookup name =
      (FinMap.lookup name entries).map Json.toDocument := by
  induction entries with
  | nil => rfl
  | cons entry rest ih =>
    by_cases same : name = entry.1
    · simp [FinMap.lookup, same]
    · simp only [FinMap.lookup] at ih
      simp [FinMap.lookup, List.lookup_cons, same, ih, beq_eq_false_iff_ne.mpr same]

/-- Where only the fields of a record are written, they are what is read. -/
theorem spell_of_written {names : List String} (known : written.map Prod.fst ⊆ names) :
    ∃ fields, Decoder.fields names (Json.ofFields written).toDocument = some fields ∧ fields.Spell written := by
  let members := Json.memberDocuments (FinMap.ofList written).entries
  have all : members.filter (fun member => names.contains member.1) = members := by
    refine List.filter_eq_self.mpr fun member inside => ?_
    obtain ⟨entry, present, rfl⟩ := List.mem_map.mp inside
    have given := FinMap.mem_of_find?_ofList (FinMap.find?_eq_some_iff.mpr present)
    exact List.contains_iff_mem.mpr (known (List.mem_map_of_mem given))
  have distinct : (members.map Prod.fst).Nodup := by
    have named : members.map Prod.fst = (FinMap.ofList written).keys := List.map_map
    rw [named]
    exact (FinMap.ofList written).nodup_keys
  refine ⟨⟨members, false⟩, ?_, rfl, fun name => lookup_map _⟩
  rw [Json.toDocument_ofFields, Decoder.fields, all, if_pos distinct]

theorem read_of_optional (read : fields.optional name decode = some (some value)) : ∃ doc, decode doc = some value := by
  rw [Fields.optional, Fields.withDefault] at read
  split at read
  · exact read_of_nullable read
  · cases read

theorem read_of_named (read : fields.named name decode = some (some value)) : ∃ doc, decode doc = some value := by
  rw [Fields.named] at read
  split at read
  · obtain ⟨_, _, here⟩ := Option.bind_eq_some_iff.mp read
    exact read_of_nullable here
  · exact read_of_optional read

namespace Spell

variable (spell : again.Spell written)

include spell

theorem required (restores : Restores decode encode) (read : fields.required name decode = some value)
    (place : Json.field? name written = some (encode value)) : again.required name decode = some value := by
  obtain ⟨_, _, here⟩ := Option.bind_eq_some_iff.mp read
  rw [Fields.required, spell.lookup, place, Option.map_some, Option.bind_some]
  exact restores here

/-- A default is written out, so it has to be read back too. -/
theorem withDefault {default : α} (restores : Restores decode encode) (spare : ReadsBack decode encode default)
    (read : fields.withDefault name default decode = some value)
    (place : Json.field? name written = some (encode value)) : again.withDefault name default decode = some value := by
  rw [Fields.withDefault, spell.lookup, place]
  rw [Fields.withDefault] at read
  split at read
  · exact restores read
  · cases read
    exact spare

theorem optional_of_readsBack {value : Option α} (refuses : decode .null = none)
    (restored : ∀ given ∈ value, ReadsBack decode encode given)
    (place : Json.field? name written = value.map encode) : again.optional name decode = some value := by
  rw [Fields.optional, Fields.withDefault, spell.lookup, place]
  cases value with
  | none => rfl
  | some given => exact nullable_of_read refuses (restored given rfl)

/-- A field that may be left out is left out when it has no value. -/
theorem optional {value : Option α} (restores : Restores decode encode) (refuses : decode .null = none)
    (read : fields.optional name decode = some value) (place : Json.field? name written = value.map encode) :
    again.optional name decode = some value := by
  refine spell.optional_of_readsBack refuses (fun given same => ?_) place
  cases same
  obtain ⟨_, here⟩ := read_of_optional read
  exact restores here

/-- One that need not be named is written by name, so that it may be left out. -/
theorem named_field {value : Option α} (restores : Restores decode encode) (refuses : decode .null = none)
    (read : fields.named name decode = some value) (place : Json.field? name written = value.map encode) :
    again.named name decode = some value := by
  rw [Fields.named, spell.named, if_neg Bool.false_ne_true]
  refine spell.optional_of_readsBack refuses (fun given same => ?_) place
  cases same
  obtain ⟨_, here⟩ := read_of_named read
  exact restores here

/-- Null stands for no value where a field is always written. -/
theorem nullable {value : Option α} (restores : Restores decode encode) (refuses : decode .null = none)
    (read : fields.optional name decode = some value)
    (place : Json.field? name written = some (Json.nullable (value.map encode))) :
    again.optional name decode = some value := by
  rw [Fields.optional, Fields.withDefault, spell.lookup, place]
  cases value with
  | none => rfl
  | some given =>
    obtain ⟨_, here⟩ := read_of_optional read
    exact nullable_of_read refuses (restores here)

end Spell

end Decoder.Fields

/-- A record is restored if it is built from the same fields again. -/
theorem Restores.of_fields {names : List String} {build : Decoder.Fields → Option α} {write : α → List (String × Json)}
    (known : ∀ value, (write value).map Prod.fst ⊆ names)
    (rebuild : ∀ {fields again value}, build fields = some value → again.Spell (write value) → build again = some value) :
    Restores (fun doc => Decoder.fields names doc >>= build) fun value => .ofFields (write value) := by
  intro doc value read
  obtain ⟨fields, _, built⟩ := Option.bind_eq_some_iff.mp read
  obtain ⟨again, given, spell⟩ := Decoder.Fields.spell_of_written (known value)
  exact Option.bind_eq_some_iff.mpr ⟨again, given, rebuild built spell⟩

end DagConsole
