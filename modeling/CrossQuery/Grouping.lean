/-!
# Groups

Items put together by a key. Groups come in the order in which their keys first occur, and within
a group the items keep their order.
-/

set_option autoImplicit false

namespace CrossQuery.Grouping

variable {α κ : Type} [BEq κ]

/-- The items whose key occurs neither among those seen nor at an earlier item. -/
def firstsAfter (key : α → κ) (seen : List κ) : List α → List α
  | [] => []
  | item :: rest =>
    if seen.contains (key item) then firstsAfter key seen rest
    else item :: firstsAfter key (key item :: seen) rest

/-- The first item of each key. -/
def firsts (key : α → κ) (items : List α) : List α :=
  firstsAfter key [] items

/-- The items that share the key of a given one. -/
def peers (key : α → κ) (items : List α) (like : α) : List α :=
  items.filter fun item => key item == key like

/-- The groups: for each key its first item and all its items. -/
def groups (key : α → κ) (items : List α) : List (α × List α) :=
  (firsts key items).map fun first => (first, peers key items first)

theorem mem_of_mem_firstsAfter {key : α → κ} {seen : List κ} {items : List α} {item : α}
    (member : item ∈ firstsAfter key seen items) : item ∈ items := by
  induction items generalizing seen with
  | nil => simp [firstsAfter] at member
  | cons head rest ih =>
      unfold firstsAfter at member
      split at member
      · exact List.mem_cons_of_mem _ (ih member)
      · rcases List.mem_cons.mp member with same | later
        · exact same ▸ List.mem_cons_self
        · exact List.mem_cons_of_mem _ (ih later)

/-- Every group has the items that share a key with its first item, which is one of them. -/
theorem mem_groups {key : α → κ} {items : List α} {group : α × List α}
    (member : group ∈ groups key items) :
    group.1 ∈ items ∧ group.2 = peers key items group.1 := by
  obtain ⟨first, isFirst, rfl⟩ := List.mem_map.mp member
  exact ⟨mem_of_mem_firstsAfter isFirst, rfl⟩

end CrossQuery.Grouping
