/-!
# Sorting by keys

Items are sorted by several keys, of which the first that tells two items apart decides. If one key
tells all items apart, the order in which they come does not matter, and the pages of a sorted list
put one behind the other are its front.
-/

set_option autoImplicit false

namespace CrossQuery

structure SortingKey (α κ : Type) where
  value : α → κ
  ascending : Bool

namespace Sorting

variable {α β κ : Type} [Ord κ]

/-- The order of two items by one key. -/
def compareByKey (key : SortingKey α κ) (left right : α) : Ordering :=
  if key.ascending then compare (key.value left) (key.value right)
  else compare (key.value right) (key.value left)

/-- The order of two items by keys. -/
def compareByKeys : List (SortingKey α κ) → α → α → Ordering
  | [] => fun _ _ => .eq
  | key :: rest => compareLex (compareByKey key) (compareByKeys rest)

section Laws

variable [Std.TransOrd κ]

instance (key : SortingKey α κ) : Std.TransCmp (compareByKey key) where
  eq_swap := by
    intro left right
    unfold compareByKey
    split <;> exact Std.OrientedCmp.eq_swap
  isLE_trans := by
    intro left middle right first second
    unfold compareByKey at first second ⊢
    split at first
    · next ascending =>
        rw [if_pos ascending] at second ⊢
        exact Std.TransCmp.isLE_trans first second
    · next descending =>
        rw [if_neg descending] at second ⊢
        exact Std.TransCmp.isLE_trans second first

instance (keys : List (SortingKey α κ)) : Std.TransCmp (compareByKeys keys) := by
  induction keys with
  | nil => exact { eq_swap := rfl, isLE_trans := fun _ _ => rfl }
  | cons key rest ih =>
      rw [compareByKeys]
      exact Std.instTransCmpCompareLex

omit [Std.TransOrd κ] in
/-- Items that no key tells apart have the same values. -/
theorem value_eq_of_compare_eq [Std.LawfulEqOrd κ] {keys : List (SortingKey α κ)} {left right : α}
    (same : compareByKeys keys left right = .eq) :
    ∀ key ∈ keys, key.value left = key.value right := by
  induction keys with
  | nil => exact fun key member => absurd member List.not_mem_nil
  | cons first rest ih =>
      rw [compareByKeys, compareLex, Ordering.then_eq_eq] at same
      obtain ⟨sameFirst, sameRest⟩ := same
      intro key member
      rcases List.mem_cons.mp member with rfl | later
      · unfold compareByKey at sameFirst
        split at sameFirst
        · exact Std.LawfulEqOrd.eq_of_compare sameFirst
        · exact (Std.LawfulEqOrd.eq_of_compare sameFirst).symm
      · exact ih sameRest key later

theorem ne_gt_iff_isLE (ordering : Ordering) : (ordering != .gt) = ordering.isLE := by
  cases ordering <;> rfl

theorem pairwise_mergeSort (keys : List (SortingKey α κ)) (items : List α) :
    (items.mergeSort fun left right => compareByKeys keys left right != .gt).Pairwise
      fun left right => (compareByKeys keys left right).isLE = true := by
  simp only [ne_gt_iff_isLE]
  apply List.pairwise_mergeSort
  · intro left middle right first second
    exact Std.TransCmp.isLE_trans first second
  · intro left right
    have swapped : compareByKeys keys right left = (compareByKeys keys left right).swap :=
      Std.OrientedCmp.eq_swap
    rw [swapped]
    cases compareByKeys keys left right <;> rfl

end Laws

section Permuted

variable {keys : List (SortingKey α κ)} {items others : List α}
  {compareItems : α → α → Ordering}

/-- Items that are compared by keys are sorted by these. -/
theorem mergeSort_congr
    (byKeys : ∀ left ∈ items, ∀ right ∈ items,
      compareItems left right = compareByKeys keys left right) :
    (items.mergeSort fun left right => compareItems left right != .gt) =
      items.mergeSort fun left right => compareByKeys keys left right != .gt := by
  have sorted := List.map_mergeSort (f := id) (l := items)
    (r := fun left right => compareItems left right != .gt)
    (s := fun left right => compareByKeys keys left right != .gt) fun left isLeft right isRight => by
      rw [byKeys left isLeft right isRight]
      rfl
  simpa using sorted

/-- Where a key tells all items apart, they are sorted alike from whatever order they come in. -/
theorem mergeSort_eq_of_perm [Std.TransOrd κ] [Std.LawfulEqOrd κ] (perm : others.Perm items)
    (byKeys : ∀ left ∈ items, ∀ right ∈ items,
      compareItems left right = compareByKeys keys left right)
    {key : SortingKey α κ} (isKey : key ∈ keys)
    (apart : ∀ left ∈ items, ∀ right ∈ items, key.value left = key.value right → left = right) :
    (others.mergeSort fun left right => compareItems left right != .gt) =
      items.mergeSort fun left right => compareItems left right != .gt := by
  have othersByKeys : ∀ left ∈ others, ∀ right ∈ others,
      compareItems left right = compareByKeys keys left right :=
    fun left isLeft right isRight =>
      byKeys left (perm.mem_iff.mp isLeft) right (perm.mem_iff.mp isRight)
  rw [mergeSort_congr othersByKeys, mergeSort_congr byKeys]
  refine List.Perm.eq_of_pairwise ?_ (pairwise_mergeSort keys others)
    (pairwise_mergeSort keys items)
    ((List.mergeSort_perm _ _).trans (perm.trans (List.mergeSort_perm _ _).symm))
  intro left right isLeft isRight forward backward
  have swapped : compareByKeys keys right left = (compareByKeys keys left right).swap :=
    Std.OrientedCmp.eq_swap
  have same : compareByKeys keys left right = .eq := by
    rw [swapped] at backward
    cases ordering : compareByKeys keys left right with
    | eq => rfl
    | lt =>
        rw [ordering] at backward
        cases backward
    | gt =>
        rw [ordering] at forward
        cases forward
  exact apart left (perm.mem_iff.mp (List.mem_mergeSort.mp isLeft)) right
    (List.mem_mergeSort.mp isRight) (value_eq_of_compare_eq same key isKey)

end Permuted

/-- Pages of one size, put one behind the other, are the front of a list. -/
theorem flatMap_pages (items : List β) (size count : Nat) :
    ((List.range count).flatMap fun place => (items.drop (place * size)).take size) =
      items.take (size * count) := by
  induction count with
  | zero => simp
  | succ count ih =>
      rw [List.range_succ, List.flatMap_append, ih, List.flatMap_singleton, Nat.mul_succ,
        List.take_add, Nat.mul_comm count size]

end Sorting

end CrossQuery
