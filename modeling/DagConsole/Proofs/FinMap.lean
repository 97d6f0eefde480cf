import DagConsole.FinMap
import Mathlib.Data.List.Sort

/-! What finite maps hold: membership in keys, values and maps of entries, told by lookup. -/
namespace DagConsole.FinMap

universe u v

variable {κ : Type u} {α : Type v} [Ord κ]

/-- Every value is stored under the key that it carries itself. -/
def KeyedBy (key : α → κ) (m : FinMap κ α) : Prop := ∀ entry ∈ m.entries, key entry.2 = entry.1

instance [DecidableEq κ] (key : α → κ) (m : FinMap κ α) : Decidable (m.KeyedBy key) :=
  inferInstanceAs (Decidable (∀ entry ∈ m.entries, key entry.2 = entry.1))

theorem isSome_lookup_iff [Std.LawfulEqOrd κ] {key : κ} {entries : List (κ × α)} :
    (lookup key entries).isSome ↔ key ∈ entries.map Prod.fst := by
  simp only [lookup, Option.isSome_map, List.find?_isSome, beq_iff_eq, List.mem_map]
  constructor
  · rintro ⟨entry, member, same⟩
    exact ⟨entry, member, (Std.LawfulEqOrd.eq_of_compare same).symm⟩
  · rintro ⟨entry, member, same⟩
    exact ⟨entry, member, by rw [same]; exact Std.ReflCmp.compare_self⟩

theorem mem_of_lookup [Std.LawfulEqOrd κ] {key : κ} {value : α} {entries : List (κ × α)}
    (found : lookup key entries = some value) : (key, value) ∈ entries := by
  obtain ⟨entry, first, same⟩ := Option.map_eq_some_iff.mp found
  have matched : (compare key entry.1 == .eq) = true :=
    List.find?_some (p := fun entry : κ × α => compare key entry.1 == .eq) first
  rw [Std.LawfulEqOrd.eq_of_compare (beq_iff_eq.mp matched), ← same]
  exact List.mem_of_find?_eq_some first

theorem lookup_append (key : κ) (one other : List (κ × α)) :
    lookup key (one ++ other) = (lookup key one).or (lookup key other) := by
  simp only [lookup, List.find?_append]
  cases one.find? fun entry => compare key entry.1 == .eq <;> rfl

theorem contains_iff [Std.LawfulEqOrd κ] {m : FinMap κ α} {key : κ} :
    m.contains key ↔ key ∈ m.keys := isSome_lookup_iff

theorem values_eq_nil_iff {m : FinMap κ α} : m.values = [] ↔ m = .empty := by
  rcases m with ⟨entries, ascending⟩
  simp [values, empty]

theorem contains_of_find? {m : FinMap κ α} {key : κ} {value : α} (found : m.find? key = some value) :
    m.contains key := by
  simp [contains, found]

theorem ne_empty_of_contains {m : FinMap κ α} {key : κ} (present : m.contains key) : m ≠ .empty := by
  rintro rfl
  cases present

variable [Std.TransOrd κ]

theorem KeyedBy.insert {key : α → κ} {m : FinMap κ α} (keyed : m.KeyedBy key) (value : α) :
    (m.insert (key value) value).KeyedBy key := by
  intro entry member
  rcases mem_insertEntry member with same | inside
  · rw [same]
  · exact keyed entry inside

variable [Std.LawfulEqOrd κ]

theorem find?_insert_self (m : FinMap κ α) (key : κ) (value : α) :
    (m.insert key value).find? key = some value := by
  rw [find?_insert, if_pos Std.ReflCmp.compare_self]

theorem find?_insert_ne (m : FinMap κ α) {key other : κ} (value : α) (apart : other ≠ key) :
    (m.insert key value).find? other = m.find? other := by
  rw [find?_insert, if_neg fun same => apart (Std.LawfulEqOrd.eq_of_compare same)]

/-- Whatever is found after an insertion was inserted or had been there. -/
theorem find?_insert_cases {m : FinMap κ α} {key other : κ} {value found : α}
    (lookup : (m.insert key value).find? other = some found) :
    (other = key ∧ found = value) ∨ (other ≠ key ∧ m.find? other = some found) := by
  by_cases same : other = key
  · subst other
    rw [find?_insert_self] at lookup
    exact .inl ⟨rfl, (Option.some.inj lookup).symm⟩
  · rw [find?_insert_ne m value same] at lookup
    exact .inr ⟨same, lookup⟩

omit [Std.LawfulEqOrd κ] in
/-- Lists with strictly ascending keys are told by what they hold. -/
theorem eq_of_ascending {β : Type*} (key : β → κ) {one other : List β}
    (first : one.Pairwise fun a b => compare (key a) (key b) = .lt)
    (second : other.Pairwise fun a b => compare (key a) (key b) = .lt) (same : ∀ b, b ∈ one ↔ b ∈ other) :
    one = other := by
  have irrefl : Std.Irrefl fun a b : β => compare (key a) (key b) = .lt := by
    refine ⟨fun b before => ?_⟩
    have equal : compare (key b) (key b) = .eq := Std.ReflCmp.compare_self
    rw [equal] at before
    cases before
  have antisymm : Std.Antisymm fun a b : β => compare (key a) (key b) = .lt := by
    refine ⟨fun a b before after => ?_⟩
    rw [Std.OrientedCmp.gt_of_lt before] at after
    cases after
  exact first.eq_of_mem_iff second same

/-- A map is told by what is found in it. -/
theorem ext_find? {m n : FinMap κ α} (same : ∀ key, m.find? key = n.find? key) : m = n := by
  apply ext_entries
  apply eq_of_ascending Prod.fst m.ascending n.ascending
  intro entry
  rw [← find?_eq_some_iff, ← find?_eq_some_iff, same]

/-- Entries of different keys may be inserted in either order. -/
theorem insert_comm (m : FinMap κ α) {key other : κ} (apart : key ≠ other) (value otherValue : α) :
    (m.insert key value).insert other otherValue = (m.insert other otherValue).insert key value := by
  apply ext_find?
  intro wanted
  by_cases last : wanted = other
  · subst wanted
    rw [find?_insert_self, find?_insert_ne _ _ apart.symm, find?_insert_self]
  · rw [find?_insert_ne _ _ last]
    by_cases first : wanted = key
    · subst wanted
      rw [find?_insert_self, find?_insert_self]
    · rw [find?_insert_ne _ _ first, find?_insert_ne _ _ first, find?_insert_ne _ _ last]

omit [Std.LawfulEqOrd κ] in
/-- Of several entries of one key, the last one counts. -/
theorem find?_ofList (entries : List (κ × α)) (key : κ) :
    (ofList entries).find? key = lookup key entries.reverse := by
  have fold : ∀ m : FinMap κ α,
      (entries.foldl (fun m entry => m.insert entry.1 entry.2) m).find? key =
        (lookup key entries.reverse).or (m.find? key) := by
    induction entries with
    | nil => intro m; rfl
    | cons entry rest ih =>
      intro m
      rw [List.foldl_cons, ih, List.reverse_cons, lookup_append, Option.or_assoc, find?_insert]
      by_cases same : compare key entry.1 = .eq <;> simp [lookup, same]
  rw [ofList, fold, find?_empty, Option.or_none]

omit [Std.LawfulEqOrd κ] in
/-- A first entry counts for as long as no other one has its key. -/
theorem find?_ofList_cons (entries : List (κ × α)) (key other : κ) (value : α) :
    (ofList ((key, value) :: entries)).find? other =
      ((ofList entries).find? other).or (if compare other key = .eq then some value else none) := by
  rw [find?_ofList, find?_ofList, List.reverse_cons, lookup_append]
  by_cases same : compare other key = .eq <;> simp [lookup, same]

theorem mem_of_find?_ofList {entries : List (κ × α)} {key : κ} {value : α}
    (found : (ofList entries).find? key = some value) : (key, value) ∈ entries := by
  rw [find?_ofList] at found
  exact List.mem_reverse.mp (mem_of_lookup found)

theorem contains_ofList {entries : List (κ × α)} {key : κ} :
    (ofList entries).contains key ↔ key ∈ entries.map Prod.fst := by
  rw [contains, find?_ofList, isSome_lookup_iff, List.map_reverse, List.mem_reverse]

theorem mem_keys_ofList {entries : List (κ × α)} {key : κ} :
    key ∈ (ofList entries).keys ↔ key ∈ entries.map Prod.fst := by
  rw [← contains_iff, contains_ofList]

theorem mem_values {m : FinMap κ α} {value : α} :
    value ∈ m.values ↔ ∃ key, m.find? key = some value := by
  constructor
  · intro member
    obtain ⟨entry, inside, same⟩ := List.mem_map.mp member
    exact ⟨entry.1, find?_eq_some_iff.mpr (same ▸ inside)⟩
  · rintro ⟨key, found⟩
    exact List.mem_map.mpr ⟨_, find?_eq_some_iff.mp found, rfl⟩

theorem KeyedBy.find? {key : α → κ} {m : FinMap κ α} (keyed : m.KeyedBy key) {stored : κ} {value : α}
    (found : m.find? stored = some value) : key value = stored := keyed _ (find?_eq_some_iff.mp found)

/-- In a map keyed by what its values carry, each value is found under its own key. -/
theorem KeyedBy.find?_key {key : α → κ} {m : FinMap κ α} (keyed : m.KeyedBy key) {value : α}
    (member : value ∈ m.values) : m.find? (key value) = some value := by
  obtain ⟨stored, found⟩ := mem_values.mp member
  rwa [keyed.find? found]

omit [Std.LawfulEqOrd κ] in
theorem nodup_keys (m : FinMap κ α) : m.keys.Nodup := by
  refine List.pairwise_map.mpr (m.ascending.imp ?_)
  intro one other before same
  have equal : compare one.1 other.1 = .eq := by rw [same]; exact Std.ReflCmp.compare_self
  rw [before] at equal
  cases equal

omit [Std.LawfulEqOrd κ] [Std.TransOrd κ] in
theorem KeyedBy.map_values {key : α → κ} {m : FinMap κ α} (keyed : m.KeyedBy key) :
    m.values.map key = m.keys := by
  rw [values, keys, List.map_map]
  exact List.map_congr_left keyed

section Filling

/-- No key has two values. -/
def Consistent (entries : List (κ × α)) : Prop :=
  ∀ one ∈ entries, ∀ other ∈ entries, one.1 = other.1 → one = other

omit [Std.LawfulEqOrd κ] [Std.TransOrd κ] [Ord κ] in
theorem consistent_of_nodup {entries : List (κ × α)} (distinct : (entries.map Prod.fst).Nodup) :
    Consistent entries := fun _ member _ inside => List.inj_on_of_nodup_map distinct member inside

omit [Std.LawfulEqOrd κ] in
theorem consistent_entries (m : FinMap κ α) : Consistent m.entries := consistent_of_nodup m.nodup_keys

omit [Std.LawfulEqOrd κ] [Std.TransOrd κ] [Ord κ] in
theorem Consistent.perm {one other : List (κ × α)} (consistent : Consistent one) (same : one.Perm other) :
    Consistent other := fun _ first _ second =>
  consistent _ (same.mem_iff.mpr first) _ (same.mem_iff.mpr second)

theorem find?_ofList_eq_some_iff {entries : List (κ × α)} (consistent : Consistent entries) {key : κ}
    {value : α} : (ofList entries).find? key = some value ↔ (key, value) ∈ entries := by
  refine ⟨mem_of_find?_ofList, fun member => ?_⟩
  obtain ⟨other, found⟩ := Option.isSome_iff_exists.mp
    (contains_ofList.mpr (List.mem_map.mpr ⟨_, member, rfl⟩))
  cases consistent _ (mem_of_find?_ofList found) _ member rfl
  exact found

/-- A map may be filled in any order, as long as no key has two values. -/
theorem ofList_eq_of_perm {one other : List (κ × α)} (consistent : Consistent one) (same : one.Perm other) :
    ofList one = ofList other := by
  apply ext_find?
  intro key
  ext value
  rw [find?_ofList_eq_some_iff consistent, find?_ofList_eq_some_iff (consistent.perm same), same.mem_iff]

/-- Filled with the entries of another one in any order, a map equals that one. -/
theorem ofList_eq_of_perm_entries {m : FinMap κ α} {entries : List (κ × α)} (same : entries.Perm m.entries) :
    ofList entries = m := by
  apply ext_find?
  intro key
  ext value
  rw [find?_ofList_eq_some_iff (m.consistent_entries.perm same.symm), same.mem_iff, find?_eq_some_iff]

theorem ofList_entries (m : FinMap κ α) : ofList m.entries = m := ofList_eq_of_perm_entries (.refl _)

theorem find?_erase (m : FinMap κ α) (key other : κ) :
    (m.erase key).find? other = if compare other key = .eq then none else m.find? other := by
  ext value
  have kept : (m.erase key).find? other = some value ↔ (other, value) ∈ m.entries ∧ ¬compare other key = .eq := by
    simp [find?_eq_some_iff, erase, filter, eq_comm (a := key)]
  rw [kept, ← find?_eq_some_iff]
  by_cases same : compare other key = .eq <;> simp [same]

theorem not_mem_keys_erase (m : FinMap κ α) (key : κ) : key ∉ (m.erase key).keys := by
  rw [← contains_iff, contains, find?_erase, if_pos Std.ReflCmp.compare_self]
  exact Bool.false_ne_true

/-- An entry in front of a map that has its key goes unseen. -/
theorem ofList_cons_of_find? {m : FinMap κ α} {key : κ} {found : α} (value : α) (here : m.find? key = some found) :
    ofList ((key, value) :: m.entries) = m := by
  apply ext_find?
  intro other
  rw [find?_ofList_cons, ofList_entries]
  by_cases same : compare other key = .eq
  · rw [Std.LawfulEqOrd.eq_of_compare same, here, Option.some_or]
  · rw [if_neg same, Option.or_none]

/-- A map is filled again from one of its entries and the others. -/
theorem ofList_cons_erase {m : FinMap κ α} {key : κ} {value : α} (found : m.find? key = some value) :
    ofList ((key, value) :: (m.erase key).entries) = m := by
  apply ext_find?
  intro other
  rw [find?_ofList_cons, ofList_entries, find?_erase]
  by_cases same : compare other key = .eq
  · rw [if_pos same, if_pos same, Std.LawfulEqOrd.eq_of_compare same, found, Option.none_or]
  · rw [if_neg same, if_neg same, Option.or_none]

/-- Entries of different keys are all kept, in ascending order. -/
theorem entries_ofList_perm {entries : List (κ × α)} (distinct : (entries.map Prod.fst).Nodup) :
    (ofList entries).entries.Perm entries := by
  refine (List.perm_ext_iff_of_nodup (.of_map _ (nodup_keys _)) (.of_map _ distinct)).mpr fun entry => ?_
  rw [← find?_eq_some_iff, find?_ofList_eq_some_iff (consistent_of_nodup distinct)]

omit [Std.TransOrd κ] [Std.LawfulEqOrd κ] in
/-- An entry of a new key is told apart from the others by its key. -/
theorem filter_cons_of_fresh [BEq κ] [LawfulBEq κ] {m : FinMap κ α} {key : κ} (value : α) (fresh : key ∉ m.keys) :
    (((key, value) :: m.entries).filter fun entry => entry.1 == key) = [(key, value)] ∧
      (((key, value) :: m.entries).filter fun entry => !(entry.1 == key)) = m.entries := by
  have apart : ∀ entry ∈ m.entries, (entry.1 == key) = false := by
    intro entry member
    refine beq_eq_false_iff_ne.mpr fun same => fresh ?_
    exact same ▸ List.mem_map_of_mem member
  constructor
  · simpa using fun entry member => apart entry member
  · simpa using fun entry member => apart entry member

/-- So it is once all entries are in order. -/
theorem filter_ofList_cons [BEq κ] [LawfulBEq κ] {m : FinMap κ α} {key : κ} (value : α) (fresh : key ∉ m.keys) :
    ((ofList ((key, value) :: m.entries)).entries.filter fun entry => entry.1 == key) = [(key, value)] ∧
      ((ofList ((key, value) :: m.entries)).entries.filter fun entry => !(entry.1 == key)).Perm m.entries := by
  have distinct : (((key, value) :: m.entries).map Prod.fst).Nodup := List.nodup_cons.mpr ⟨fresh, m.nodup_keys⟩
  have order := entries_ofList_perm distinct
  obtain ⟨own, others⟩ := filter_cons_of_fresh value fresh
  exact ⟨List.perm_singleton.mp ((order.filter _).trans (.of_eq own)), (order.filter _).trans (.of_eq others)⟩

end Filling

end DagConsole.FinMap
