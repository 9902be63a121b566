import CrossQuery.Grouping
import Mathlib.Algebra.Order.Ring.Nat

/-!
# Groups by keys

Two items are in one group exactly when they share their key, members of different groups have
different keys, and the groups are made of all the items. Items and their images fall into the same groups, if their keys tell the same items apart.
-/

set_option autoImplicit false

namespace CrossQuery.Grouping

variable {α β κ μ : Type} {key : α → κ} {keyOfImage : β → μ} {image : α → β} {change : κ → μ}

/-- The keys of images tell apart the items that the keys of items tell apart. -/
def KeysAgree (key : α → κ) (keyOfImage : β → μ) (image : α → β) (items : List α) : Prop :=
  ∀ left ∈ items, ∀ right ∈ items, keyOfImage (image left) = keyOfImage (image right) ↔
    key left = key right

theorem KeysAgree.of_eq {items : List α}
    (same : ∀ item ∈ items, keyOfImage (image item) = change (key item))
    (injective : ∀ left right : κ, change left = change right → left = right) :
    KeysAgree key keyOfImage image items := by
  intro left isLeft right isRight
  rw [same left isLeft, same right isRight]
  exact ⟨injective _ _, congrArg change⟩

theorem KeysAgree.of_same {keyOfImage : β → κ} {items : List α}
    (same : ∀ item ∈ items, keyOfImage (image item) = key item) :
    KeysAgree key keyOfImage image items := by
  intro left isLeft right isRight
  rw [same left isLeft, same right isRight]

variable [BEq κ] [LawfulBEq κ] [BEq μ] [LawfulBEq μ]

theorem contains_map_iff {seen : List α} {item : α}
    (agree : ∀ other ∈ seen, keyOfImage (image other) = keyOfImage (image item) ↔
      key other = key item) :
    (seen.map fun other => keyOfImage (image other)).contains (keyOfImage (image item)) =
      (seen.map key).contains (key item) := by
  induction seen with
  | nil => rfl
  | cons first rest ih =>
      have others := ih fun other member => agree other (List.mem_cons_of_mem _ member)
      have same : (keyOfImage (image item) == keyOfImage (image first)) =
          (key item == key first) := by
        rw [Bool.eq_iff_iff, beq_iff_eq, beq_iff_eq, eq_comm, agree first List.mem_cons_self,
          eq_comm]
      rw [List.map_cons, List.map_cons, List.contains_cons, List.contains_cons, others, same]

theorem firstsAfter_map {seen items : List α}
    (agree : KeysAgree key keyOfImage image (seen ++ items)) :
    firstsAfter keyOfImage (seen.map fun other => keyOfImage (image other)) (items.map image) =
      (firstsAfter key (seen.map key) items).map image := by
  induction items generalizing seen with
  | nil => rfl
  | cons item rest ih =>
      have isItem : item ∈ seen ++ item :: rest := by simp
      have known := contains_map_iff fun other member =>
        agree other (List.mem_append_left _ member) item isItem
      rw [List.map_cons, firstsAfter, firstsAfter, known]
      split
      · refine ih fun left isLeft right isRight => agree left ?_ right ?_
        · exact ((List.sublist_cons_self item rest).append_left seen).subset isLeft
        · exact ((List.sublist_cons_self item rest).append_left seen).subset isRight
      · have moved : KeysAgree key keyOfImage image ((item :: seen) ++ rest) := by
          intro left isLeft right isRight
          refine agree left ?_ right ?_
          · simpa [or_left_comm] using isLeft
          · simpa [or_left_comm] using isRight
        rw [List.map_cons]
        exact congrArg _ (ih moved)

theorem firsts_map {items : List α} (agree : KeysAgree key keyOfImage image items) :
    firsts keyOfImage (items.map image) = (firsts key items).map image := by
  have unseen : KeysAgree key keyOfImage image ([] ++ items) := agree
  exact firstsAfter_map unseen

theorem peers_map {items : List α} (agree : KeysAgree key keyOfImage image items) {like : α}
    (isLike : like ∈ items) :
    peers keyOfImage (items.map image) (image like) = (peers key items like).map image := by
  unfold peers
  rw [List.filter_map]
  refine congrArg _ (List.filter_congr fun item member => ?_)
  rw [Bool.eq_iff_iff, Function.comp_apply, beq_iff_eq, beq_iff_eq]
  exact agree item member like isLike

/-- The groups of images are the images of the groups. -/
theorem groups_map {items : List α} (agree : KeysAgree key keyOfImage image items) :
    groups keyOfImage (items.map image) =
      (groups key items).map fun group => (image group.1, group.2.map image) := by
  unfold groups
  rw [firsts_map agree, List.map_map, List.map_map]
  refine List.map_congr_left fun first member => ?_
  exact congrArg _ (peers_map agree (mem_of_mem_firstsAfter member))

omit [LawfulBEq κ] in
theorem firstsAfter_sublist {seen : List κ} {items : List α} :
    List.Sublist (firstsAfter key seen items) items := by
  induction items generalizing seen with
  | nil => exact .slnil
  | cons item rest ih =>
      unfold firstsAfter
      split
      · exact ih.cons _
      · exact ih.cons_cons _

omit [LawfulBEq κ] in
theorem length_firsts_le {items : List α} : (firsts key items).length ≤ items.length :=
  firstsAfter_sublist.length_le

/-- Items that share one key are one group. -/
theorem groups_of_same {first : α} {rest : List α}
    (same : ∀ item ∈ rest, key item = key first) :
    groups key (first :: rest) = [(first, first :: rest)] := by
  have seen : firstsAfter key [key first] rest = [] := by
    induction rest with
    | nil => rfl
    | cons item rest ih =>
        have others := ih fun other member => same other (List.mem_cons_of_mem _ member)
        have isSeen : [key first].contains (key item) = true := by
          rw [same item List.mem_cons_self]
          simp
        rw [firstsAfter, if_pos isSeen, others]
  have all : peers key (first :: rest) first = first :: rest := by
    refine List.filter_eq_self.mpr fun item member => ?_
    rcases List.mem_cons.mp member with rfl | later
    · exact beq_self_eq_true _
    · rw [same item later]
      exact beq_self_eq_true _
  have unseen : ¬ ([] : List κ).contains (key first) = true := by simp
  rw [groups, firsts, firstsAfter, if_neg unseen, seen, List.map_singleton, all]

/-- The first item of a group is a member of it, and its members are items in order. -/
theorem members_of_mem_groups {items : List α} {group : α × List α}
    (isGroup : group ∈ groups key items) :
    group.1 ∈ group.2 ∧ List.Sublist group.2 items := by
  obtain ⟨isItem, same⟩ := mem_groups isGroup
  rw [same]
  exact ⟨List.mem_filter.mpr ⟨isItem, beq_self_eq_true _⟩, List.filter_sublist⟩

/-- Every item shares its key with a first one, unless the key was seen before. -/
theorem exists_firstsAfter {seen : List κ} {items : List α} {item : α} (isItem : item ∈ items)
    (unseen : key item ∉ seen) : ∃ first ∈ firstsAfter key seen items, key first = key item := by
  induction items generalizing seen with
  | nil => cases isItem
  | cons head rest ih =>
      unfold firstsAfter
      by_cases known : key head ∈ seen
      · rw [if_pos (List.contains_iff_mem.mpr known)]
        rcases List.mem_cons.mp isItem with rfl | later
        · exact absurd known unseen
        · exact ih later unseen
      · rw [if_neg (by simpa using known)]
        by_cases same : key item = key head
        · exact ⟨head, List.mem_cons_self, same.symm⟩
        · have later : item ∈ rest := by
            rcases List.mem_cons.mp isItem with rfl | later
            · exact absurd rfl same
            · exact later
          have stillUnseen : key item ∉ key head :: seen := by
            rw [List.mem_cons, not_or]
            exact ⟨same, unseen⟩
          obtain ⟨first, isFirst, sameKey⟩ := ih later stillUnseen
          exact ⟨first, List.mem_cons_of_mem _ isFirst, sameKey⟩

theorem nodup_firstsAfter {seen : List κ} {items : List α} :
    ((firstsAfter key seen items).map key).Nodup ∧
      ∀ first ∈ firstsAfter key seen items, key first ∉ seen := by
  induction items generalizing seen with
  | nil => exact ⟨List.nodup_nil, fun first member => absurd member List.not_mem_nil⟩
  | cons head rest ih =>
      unfold firstsAfter
      split
      · exact ih
      · next unseen =>
          obtain ⟨distinct, fresh⟩ := @ih (key head :: seen)
          refine ⟨?_, ?_⟩
          · rw [List.map_cons, List.nodup_cons]
            refine ⟨fun repeated => ?_, distinct⟩
            obtain ⟨first, isFirst, same⟩ := List.mem_map.mp repeated
            exact fresh first isFirst (same ▸ List.mem_cons_self)
          · intro first member
            rcases List.mem_cons.mp member with rfl | later
            · simpa using unseen
            · exact fun isSeen => fresh first later (List.mem_cons_of_mem _ isSeen)

/-- Two items are in one group exactly when they share their key. -/
theorem exists_group_iff {items : List α} {left right : α} (isLeft : left ∈ items)
    (isRight : right ∈ items) :
    (∃ group ∈ groups key items, left ∈ group.2 ∧ right ∈ group.2) ↔ key left = key right := by
  constructor
  · rintro ⟨group, isGroup, leftMember, rightMember⟩
    obtain ⟨_, same⟩ := mem_groups isGroup
    rw [same, peers, List.mem_filter, beq_iff_eq] at leftMember rightMember
    exact leftMember.2.trans rightMember.2.symm
  · intro same
    have found : ∃ first ∈ firsts key items, key first = key left :=
      exists_firstsAfter isLeft List.not_mem_nil
    obtain ⟨first, isFirst, sameKey⟩ := found
    refine ⟨(first, peers key items first), List.mem_map_of_mem isFirst, ?_, ?_⟩
    · exact List.mem_filter.mpr ⟨isLeft, beq_iff_eq.mpr sameKey.symm⟩
    · exact List.mem_filter.mpr ⟨isRight, beq_iff_eq.mpr (same.symm.trans sameKey.symm)⟩

/-- Members of different groups do not agree, if what agrees shares its key. -/
theorem pairwise_groups {items : List α} {agree : α → α → Prop}
    (same : ∀ left ∈ items, ∀ right ∈ items, agree left right → key left = key right) :
    (groups key items).Pairwise fun group other =>
      ∀ left ∈ group.2, ∀ right ∈ other.2, ¬agree left right := by
  have distinct : (firsts key items).Pairwise fun first other => key first ≠ key other :=
    List.pairwise_map.mp nodup_firstsAfter.1
  rw [groups, List.pairwise_map]
  refine distinct.imp fun {first other} differs left isLeft right isRight agrees => differs ?_
  obtain ⟨leftItem, leftKey⟩ := List.mem_filter.mp isLeft
  obtain ⟨rightItem, rightKey⟩ := List.mem_filter.mp isRight
  calc key first = key left := (beq_iff_eq.mp leftKey).symm
    _ = key right := same left leftItem right rightItem agrees
    _ = key other := beq_iff_eq.mp rightKey

/-- Items are put together again from those with each of the keys that they have. -/
theorem perm_flatMap_filter {keys : List κ} {items : List α} (distinct : keys.Nodup)
    (complete : ∀ item ∈ items, key item ∈ keys) :
    (keys.flatMap fun wanted => items.filter fun item => key item == wanted).Perm items := by
  induction keys generalizing items with
  | nil =>
      have none : items = [] := List.eq_nil_iff_forall_not_mem.mpr fun item member =>
        absurd (complete item member) List.not_mem_nil
      rw [none]
      exact .nil
  | cons wanted rest ih =>
      obtain ⟨fresh, distinctRest⟩ := List.nodup_cons.mp distinct
      have others : ∀ item ∈ items.filter fun item => !(key item == wanted), key item ∈ rest := by
        intro item member
        obtain ⟨isItem, differs⟩ := List.mem_filter.mp member
        rcases List.mem_cons.mp (complete item isItem) with same | later
        · simp [same] at differs
        · exact later
      have narrowed : (rest.flatMap fun other => items.filter fun item => key item == other) =
          rest.flatMap fun other => (items.filter fun item => !(key item == wanted)).filter
            fun item => key item == other := by
        refine congrArg List.flatten (List.map_congr_left fun other member => ?_)
        rw [List.filter_filter]
        refine List.filter_congr fun item _ => ?_
        have different : other ≠ wanted := fun same => fresh (same ▸ member)
        by_cases same : key item = other
        · simp [same, different]
        · simp [same]
      rw [List.flatMap_cons, narrowed]
      have together := (ih distinctRest others).append_left
        (items.filter fun item => key item == wanted)
      exact together.trans (List.filter_append_perm _ items)

/-- The groups are made of all the items. -/
theorem groups_perm (items : List α) : ((groups key items).flatMap Prod.snd).Perm items := by
  have grouped : (groups key items).flatMap Prod.snd =
      ((firsts key items).map key).flatMap fun wanted =>
        items.filter fun item => key item == wanted := by
    rw [groups, List.flatMap_map, List.flatMap_map]
    rfl
  rw [grouped]
  refine perm_flatMap_filter nodup_firstsAfter.1 fun item isItem => ?_
  have found : ∃ first ∈ firsts key items, key first = key item :=
    exists_firstsAfter isItem List.not_mem_nil
  obtain ⟨first, isFirst, same⟩ := found
  exact same ▸ List.mem_map_of_mem isFirst

theorem sum_length_groups (items : List α) :
    ((groups key items).map fun group => group.2.length).sum = items.length := by
  have perm : ((groups key items).flatMap Prod.snd).Perm items := groups_perm items
  rw [← perm.length_eq, List.length_flatMap]

theorem length_pos_of_mem_groups {items : List α} {group : α × List α}
    (isGroup : group ∈ groups key items) : 0 < group.2.length :=
  List.length_pos_of_mem (members_of_mem_groups isGroup).1

end CrossQuery.Grouping
