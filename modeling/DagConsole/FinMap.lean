/-! Finite maps with one representation for each map, so equal maps are equal values. -/
namespace DagConsole

universe u v w

/-- A finite map, kept as its entries in ascending key order with one entry for each key. -/
structure FinMap (κ : Type u) (α : Type v) [Ord κ] where
  entries : List (κ × α)
  ascending : entries.Pairwise fun a b => compare a.1 b.1 = .lt

namespace FinMap

variable {κ : Type u} {α : Type v} {β : Type w} [Ord κ]

theorem ext_entries {m n : FinMap κ α} (same : m.entries = n.entries) : m = n := by
  cases m; cases n; cases same; rfl

instance [DecidableEq κ] [DecidableEq α] : DecidableEq (FinMap κ α) := fun m n =>
  decidable_of_iff (m.entries = n.entries) ⟨ext_entries, fun h => h ▸ rfl⟩

def empty : FinMap κ α := ⟨[], .nil⟩

instance : Inhabited (FinMap κ α) := ⟨empty⟩

def size (m : FinMap κ α) : Nat := m.entries.length

def isEmpty (m : FinMap κ α) : Bool := m.entries.isEmpty

def keys (m : FinMap κ α) : List κ := m.entries.map Prod.fst

def values (m : FinMap κ α) : List α := m.entries.map Prod.snd

/-- The value that a list of entries gives a key: that of the first entry with this key. -/
def lookup (key : κ) (entries : List (κ × α)) : Option α :=
  (entries.find? fun entry => compare key entry.1 == .eq).map Prod.snd

def find? (m : FinMap κ α) (key : κ) : Option α := lookup key m.entries

def contains (m : FinMap κ α) (key : κ) : Bool := (m.find? key).isSome

/-- Puts an entry at its place in an ascending list, replacing the entry of an equal key. -/
def insertEntry (key : κ) (value : α) : List (κ × α) → List (κ × α)
  | [] => [(key, value)]
  | entry :: rest =>
    match compare key entry.1 with
    | .lt => (key, value) :: entry :: rest
    | .eq => (key, value) :: rest
    | .gt => entry :: insertEntry key value rest

theorem mem_insertEntry {key : κ} {value : α} {entry : κ × α} {entries : List (κ × α)}
    (member : entry ∈ insertEntry key value entries) : entry = (key, value) ∨ entry ∈ entries := by
  induction entries with
  | nil => simpa [insertEntry] using member
  | cons head rest ih =>
    unfold insertEntry at member
    split at member
    · simpa using member
    · rcases List.mem_cons.mp member with same | inside
      · exact .inl same
      · exact .inr (List.mem_cons_of_mem _ inside)
    · rcases List.mem_cons.mp member with same | inside
      · exact .inr (same ▸ List.mem_cons_self)
      · exact (ih inside).imp_right (List.mem_cons_of_mem _)

theorem ascending_insertEntry [Std.TransOrd κ] (key : κ) (value : α) {entries : List (κ × α)}
    (ascending : entries.Pairwise fun a b => compare a.1 b.1 = .lt) :
    (insertEntry key value entries).Pairwise fun a b => compare a.1 b.1 = .lt := by
  induction entries with
  | nil => simp [insertEntry]
  | cons head rest ih =>
    obtain ⟨below, tail⟩ := List.pairwise_cons.mp ascending
    unfold insertEntry
    split
    · rename_i before
      refine List.pairwise_cons.mpr ⟨fun entry member => ?_, ascending⟩
      rcases List.mem_cons.mp member with same | inside
      · exact same ▸ before
      · exact Std.TransCmp.lt_trans before (below entry inside)
    · rename_i equal
      exact List.pairwise_cons.mpr
        ⟨fun entry inside => (Std.TransCmp.congr_left equal).trans (below entry inside), tail⟩
    · rename_i after
      refine List.pairwise_cons.mpr ⟨fun entry member => ?_, ih tail⟩
      rcases mem_insertEntry member with same | inside
      · exact same ▸ Std.OrientedCmp.lt_of_gt after
      · exact below entry inside

theorem lookup_insertEntry [Std.TransOrd κ] (key other : κ) (value : α)
    (entries : List (κ × α)) :
    lookup other (insertEntry key value entries) =
      if compare other key = .eq then some value else lookup other entries := by
  induction entries with
  | nil => by_cases same : compare other key = .eq <;> simp [lookup, insertEntry, same]
  | cons head rest ih =>
    unfold insertEntry
    by_cases same : compare other key = .eq
    · rw [if_pos same] at ih ⊢
      split
      · simp [lookup, same]
      · simp [lookup, same]
      · rename_i after
        have apart : compare other head.1 ≠ .eq := by
          rw [Std.TransCmp.congr_left same, after]; decide
        simpa [lookup, apart] using ih
    · rw [if_neg same] at ih ⊢
      split
      · simp [lookup, same]
      · rename_i equal
        have apart : compare other head.1 ≠ .eq := by
          rw [← Std.TransCmp.congr_right equal]; exact same
        simp [lookup, same, apart]
      · by_cases here : compare other head.1 = .eq
        · simp [lookup, here]
        · simpa [lookup, here] using ih

theorem lookup_eq_some_iff [Std.TransOrd κ] [Std.LawfulEqOrd κ] {entries : List (κ × α)}
    (ascending : entries.Pairwise fun a b => compare a.1 b.1 = .lt) {key : κ} {value : α} :
    lookup key entries = some value ↔ (key, value) ∈ entries := by
  induction entries with
  | nil => simp [lookup]
  | cons head rest ih =>
    obtain ⟨below, tail⟩ := List.pairwise_cons.mp ascending
    by_cases here : compare key head.1 = .eq
    · have same : key = head.1 := Std.LawfulEqOrd.eq_of_compare here
      constructor
      · intro found
        have value : head.2 = value := by simpa [lookup, here] using found
        exact List.mem_cons.mpr (.inl (Prod.ext same value.symm))
      · intro member
        rcases List.mem_cons.mp member with first | inside
        · simp [lookup, ← first]
        · have before := below _ inside
          have equal : compare head.1 head.1 = .eq := Std.ReflCmp.compare_self
          rw [same, equal] at before
          cases before
    · have apart : (key, value) ≠ head := by
        rintro rfl
        exact here Std.ReflCmp.compare_self
      rw [List.mem_cons, or_iff_right apart, ← ih tail]
      simp [lookup, here]

variable [Std.TransOrd κ]

def insert (m : FinMap κ α) (key : κ) (value : α) : FinMap κ α :=
  ⟨insertEntry key value m.entries, ascending_insertEntry key value m.ascending⟩

/-- The map of a list of entries; of several entries of one key the last one counts. -/
def ofList (entries : List (κ × α)) : FinMap κ α :=
  entries.foldl (fun m entry => m.insert entry.1 entry.2) empty

omit [Std.TransOrd κ] in
def filter (keep : κ × α → Bool) (m : FinMap κ α) : FinMap κ α :=
  ⟨m.entries.filter keep, m.ascending.filter keep⟩

omit [Std.TransOrd κ] in
def erase (m : FinMap κ α) (key : κ) : FinMap κ α :=
  m.filter fun entry => compare key entry.1 != .eq

omit [Std.TransOrd κ] in
def map (f : α → β) (m : FinMap κ α) : FinMap κ β :=
  ⟨m.entries.map fun entry => (entry.1, f entry.2), m.ascending.map _ fun _ _ h => h⟩

omit [Std.TransOrd κ] in
@[simp] theorem find?_empty (key : κ) : (empty : FinMap κ α).find? key = none := rfl

theorem find?_insert (m : FinMap κ α) (key other : κ) (value : α) :
    (m.insert key value).find? other =
      if compare other key = .eq then some value else m.find? other :=
  lookup_insertEntry key other value m.entries

theorem find?_eq_some_iff [Std.LawfulEqOrd κ] {m : FinMap κ α} {key : κ} {value : α} :
    m.find? key = some value ↔ (key, value) ∈ m.entries :=
  lookup_eq_some_iff m.ascending

end FinMap

end DagConsole
