import DagConsole.Sorting
import Mathlib.Data.List.Sort

/-! What sorting gives. It is Mathlib's sort by insertion, whose laws say that nothing is lost, that the result is in
order, and that elements which may precede each other keep their order. -/
namespace DagConsole.Sorting

variable {α : Type} {mayPrecede : α → α → Bool} {list : List α}

theorem insertBy_eq_orderedInsert (mayPrecede : α → α → Bool) (a : α) (list : List α) :
    insertBy mayPrecede a list = list.orderedInsert (fun a b => mayPrecede a b) a := by
  induction list with
  | nil => rfl
  | cons b rest ih => rw [insertBy, ih, List.orderedInsert_cons]

theorem sortBy_eq_insertionSort (mayPrecede : α → α → Bool) (list : List α) :
    sortBy mayPrecede list = list.insertionSort fun a b => mayPrecede a b := by
  induction list with
  | nil => rfl
  | cons a rest ih => rw [List.insertionSort_cons, ← ih, ← insertBy_eq_orderedInsert, sortBy, sortBy, List.foldr_cons]

theorem perm_sortBy (mayPrecede : α → α → Bool) (list : List α) : (sortBy mayPrecede list).Perm list := by
  rw [sortBy_eq_insertionSort]
  exact List.perm_insertionSort _ list

section Ordered

variable (total : ∀ a b, mayPrecede a b ∨ mayPrecede b a)
  (trans : ∀ a b c, mayPrecede a b → mayPrecede b c → mayPrecede a c)

include total trans

theorem pairwise_sortBy (list : List α) : (sortBy mayPrecede list).Pairwise fun a b => mayPrecede a b := by
  have : Std.Total fun a b => mayPrecede a b = true := ⟨total⟩
  have : IsTrans α fun a b => mayPrecede a b = true := ⟨trans⟩
  rw [sortBy_eq_insertionSort]
  exact List.pairwise_insertionSort _ list

theorem sublist_sortBy {some : List α} (ordered : some.Pairwise fun a b => mayPrecede a b)
    (listed : some.Sublist list) : some.Sublist (sortBy mayPrecede list) := by
  have : Std.Total fun a b => mayPrecede a b = true := ⟨total⟩
  have : IsTrans α fun a b => mayPrecede a b = true := ⟨trans⟩
  rw [sortBy_eq_insertionSort]
  exact List.sublist_insertionSort ordered listed

/-- Elements that may all precede each other keep their order. -/
theorem filter_sortBy {alike : α → Bool} (equal : ∀ a b, alike a → alike b → mayPrecede a b) (list : List α) :
    (sortBy mayPrecede list).filter alike = list.filter alike := by
  have ordered : (list.filter alike).Pairwise fun a b => mayPrecede a b :=
    (List.pairwise_of_forall_mem_list fun a first b second =>
      equal a b (List.mem_filter.mp first).2 (List.mem_filter.mp second).2)
  have kept := (sublist_sortBy total trans ordered List.filter_sublist).filter alike
  rw [List.filter_filter, funext fun a => Bool.and_self (alike a)] at kept
  exact (kept.eq_of_length ((perm_sortBy mayPrecede list).filter alike).length_eq.symm).symm

/-- Where no two different elements may precede each other, the order before sorting is lost. -/
theorem sortBy_eq_of_perm {one other : List α} (same : one.Perm other)
    (antisymm : ∀ a ∈ one, ∀ b ∈ one, mayPrecede a b → mayPrecede b a → a = b) :
    sortBy mayPrecede one = sortBy mayPrecede other := by
  apply List.Perm.eq_of_pairwise _ (pairwise_sortBy total trans one) (pairwise_sortBy total trans other)
  · exact (perm_sortBy mayPrecede one).trans (same.trans (perm_sortBy mayPrecede other).symm)
  · intro a b first second
    have here := (perm_sortBy mayPrecede one).mem_iff.mp first
    have there := same.mem_iff.mpr ((perm_sortBy mayPrecede other).mem_iff.mp second)
    exact antisymm a here b there

end Ordered

/-! ### What comes first -/

/-- An element that may precede all others of a list, and is listed before those that may precede it too. -/
def IsFirst (mayPrecede : α → α → Bool) (a : α) (list : List α) : Prop :=
  ∃ earlier later, list = earlier ++ a :: later ∧ (∀ b ∈ earlier, ¬mayPrecede b a) ∧ ∀ b ∈ later, mayPrecede a b

theorem exists_isFirst (total : ∀ a b, mayPrecede a b ∨ mayPrecede b a)
    (trans : ∀ a b c, mayPrecede a b → mayPrecede b c → mayPrecede a c) (some : list ≠ []) :
    ∃ a, IsFirst mayPrecede a list := by
  induction list with
  | nil => exact absurd rfl some
  | cons a rest ih =>
    by_cases none : rest = []
    · subst none
      exact ⟨a, [], [], rfl, List.forall_mem_nil _, List.forall_mem_nil _⟩
    · obtain ⟨b, earlier, later, rfl, behind, before⟩ := ih none
      by_cases ahead : mayPrecede a b
      · refine ⟨a, [], earlier ++ b :: later, rfl, List.forall_mem_nil _, List.forall_mem_append.mpr ⟨?_, ?_⟩⟩
        · intro c member
          exact trans a b c ahead ((total b c).resolve_right (behind c member))
        · exact List.forall_mem_cons.mpr ⟨ahead, fun c member => trans a b c ahead (before c member)⟩
      · exact ⟨b, a :: earlier, later, rfl, List.forall_mem_cons.mpr ⟨ahead, behind⟩, before⟩

theorem head?_sortBy_of_isFirst {a : α} (first : IsFirst mayPrecede a list) :
    (sortBy mayPrecede list).head? = some a := by
  obtain ⟨earlier, later, rfl, behind, before⟩ := first
  rw [sortBy_eq_insertionSort]
  induction earlier with
  | nil => rw [List.nil_append, List.insertionSort_cons_of_forall_rel _ before, List.head?_cons]
  | cons b earlier ih =>
    obtain ⟨apart, behind⟩ := List.forall_mem_cons.mp behind
    obtain ⟨rest, sorted⟩ := List.head?_eq_some_iff.mp (ih behind)
    rw [List.cons_append, List.insertionSort_cons, sorted, List.orderedInsert_cons, if_neg apart, List.head?_cons]

/-- What sorting puts first was the first one already. -/
theorem head?_sortBy_iff (total : ∀ a b, mayPrecede a b ∨ mayPrecede b a)
    (trans : ∀ a b c, mayPrecede a b → mayPrecede b c → mayPrecede a c) {a : α} :
    (sortBy mayPrecede list).head? = some a ↔ IsFirst mayPrecede a list := by
  refine ⟨fun head => ?_, head?_sortBy_of_isFirst⟩
  have some : list ≠ [] := by
    rintro rfl
    cases head
  obtain ⟨b, first⟩ := exists_isFirst total trans some
  cases head.symm.trans (head?_sortBy_of_isFirst first)
  exact first

/-! ### Comparing -/

theorem isLE_total (order : α → α → Ordering) [Std.OrientedCmp order] (a b : α) :
    (order a b).isLE ∨ (order b a).isLE := by
  have swapped : order b a = (order a b).swap := Std.OrientedCmp.eq_swap
  rw [swapped]
  cases order a b <;> simp

theorem isLE_antisymm [Ord α] [Std.OrientedOrd α] [Std.LawfulEqOrd α] {a b : α} (first : (compare a b).isLE)
    (second : (compare b a).isLE) : a = b :=
  Std.LawfulEqCmp.eq_of_compare (Std.OrientedCmp.isLE_antisymm first second)

/-- Sorted elements of which no two have the same key ascend. -/
theorem ascending_of_sorted {κ : Type} [Ord κ] [Std.OrientedOrd κ] [Std.LawfulEqOrd κ] (key : α → κ)
    (sorted : list.Pairwise fun a b => (compare (key a) (key b)).isLE) (distinct : (list.map key).Nodup) :
    list.Pairwise fun a b => compare (key a) (key b) = .lt :=
  ((List.pairwise_map.mp distinct).and sorted).imp fun ⟨apart, before⟩ =>
    (Ordering.isLE_iff_eq_lt_or_eq_eq.mp before).resolve_right fun same => apart (Std.LawfulEqOrd.eq_of_compare same)

/-- Elements with different keys ascend once they are sorted by them. -/
theorem ascending_sortBy {κ : Type} [Ord κ] [Std.TransOrd κ] [Std.LawfulEqOrd κ] (key : α → κ)
    (distinct : (list.map key).Nodup) :
    (sortBy (fun a b => (compare (key a) (key b)).isLE) list).Pairwise fun a b => compare (key a) (key b) = .lt := by
  refine ascending_of_sorted key ?_ (((perm_sortBy _ list).map key).nodup_iff.mpr distinct)
  exact pairwise_sortBy (fun a b => isLE_total compare (key a) (key b)) (fun _ _ _ => Std.TransCmp.isLE_trans) list

end DagConsole.Sorting
