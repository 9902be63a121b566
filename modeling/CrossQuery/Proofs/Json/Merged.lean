import CrossQuery.Json
import Mathlib.Data.List.Nodup

/-!
# Values without repeated keys

What setting a key does to the entries of an object. Merging repeated keys leaves a value alone
exactly when there is none, at any depth. Also what the depth of a value says of the depths of its
parts.
-/

set_option autoImplicit false

namespace CrossQuery.Json

section Entries

variable {key : String} {value : Json} {entry : String × Json} {entries : List (String × Json)}

theorem mem_assign (member : entry ∈ assign key value entries) :
    entry ∈ entries ∨ entry = (key, value) := by
  induction entries with
  | nil => exact .inr (List.mem_singleton.mp member)
  | cons first rest ih =>
      obtain ⟨name, old⟩ := first
      unfold assign at member
      split at member
      · next same =>
          rcases List.mem_cons.mp member with rfl | later
          · exact .inr (same ▸ rfl)
          · exact .inl (List.mem_cons_of_mem _ later)
      · rcases List.mem_cons.mp member with rfl | later
        · exact .inl List.mem_cons_self
        · rcases ih later with found | isNew
          · exact .inl (List.mem_cons_of_mem _ found)
          · exact .inr isNew

theorem names_assign (key : String) (value : Json) (entries : List (String × Json)) :
    ∀ name, name ∈ (assign key value entries).map Prod.fst ↔
      name = key ∨ name ∈ entries.map Prod.fst := by
  intro name
  induction entries with
  | nil => simp [assign]
  | cons first rest ih =>
      obtain ⟨other, old⟩ := first
      unfold assign
      split
      · next same =>
          subst same
          simp
      · rw [List.map_cons, List.mem_cons, ih, List.map_cons, List.mem_cons]
        exact or_left_comm

theorem nodup_names_assign (distinct : (entries.map Prod.fst).Nodup) (key : String)
    (value : Json) : ((assign key value entries).map Prod.fst).Nodup := by
  induction entries with
  | nil => exact List.nodup_singleton key
  | cons first rest ih =>
      obtain ⟨name, old⟩ := first
      rw [List.map_cons, List.nodup_cons] at distinct
      unfold assign
      split
      · rw [List.map_cons]
        exact List.nodup_cons.mpr distinct
      · next differs =>
          rw [List.map_cons, List.nodup_cons, names_assign]
          exact ⟨not_or.mpr ⟨differs, distinct.1⟩, ih distinct.2⟩

theorem assign_of_not_mem (fresh : key ∉ entries.map Prod.fst) (value : Json) :
    assign key value entries = entries ++ [(key, value)] := by
  induction entries with
  | nil => rfl
  | cons first rest ih =>
      obtain ⟨name, old⟩ := first
      rw [List.map_cons, List.mem_cons, not_or] at fresh
      rw [assign, if_neg (Ne.symm fresh.1), ih fresh.2, List.cons_append]

theorem foldl_assign_of_nodup {collected : List (String × Json)}
    (distinct : ((collected ++ entries).map Prod.fst).Nodup) :
    entries.foldl (fun collected entry => assign entry.1 entry.2 collected) collected =
      collected ++ entries := by
  induction entries generalizing collected with
  | nil => simp
  | cons entry rest ih =>
      have fresh : entry.1 ∉ collected.map Prod.fst := by
        rw [List.map_append, List.nodup_append] at distinct
        intro member
        exact distinct.2.2 _ member _ (List.mem_map_of_mem List.mem_cons_self) rfl
      rw [List.foldl_cons, assign_of_not_mem fresh]
      rw [ih (by simpa using distinct)]
      simp

theorem mem_foldl_assign {collected : List (String × Json)}
    (member : entry ∈ entries.foldl
      (fun collected entry => assign entry.1 entry.2 collected) collected) :
    entry ∈ collected ∨ entry ∈ entries := by
  induction entries generalizing collected with
  | nil => exact .inl member
  | cons first rest ih =>
      rcases ih member with earlier | later
      · rcases mem_assign earlier with held | rfl
        · exact .inl held
        · exact .inr List.mem_cons_self
      · exact .inr (List.mem_cons_of_mem _ later)

theorem names_foldl_assign (name : String) (collected : List (String × Json)) :
    name ∈ (entries.foldl
        (fun collected entry => assign entry.1 entry.2 collected) collected).map Prod.fst ↔
      name ∈ collected.map Prod.fst ∨ name ∈ entries.map Prod.fst := by
  induction entries generalizing collected with
  | nil => simp
  | cons first rest ih =>
      rw [List.foldl_cons, ih, names_assign, List.map_cons, List.mem_cons, or_assoc, or_left_comm]

theorem lookup?_eq_none_iff : lookup? key entries = none ↔ key ∉ entries.map Prod.fst := by
  induction entries with
  | nil => simp [lookup?]
  | cons first rest ih =>
      obtain ⟨name, value⟩ := first
      rw [lookup?, List.map_cons, List.mem_cons, not_or, ← ih]
      split
      · next same => simp [same]
      · next differs => simp [Ne.symm differs]

end Entries

/-- No object has a key twice, at any depth. -/
inductive Merged : Json → Prop
  | null : Merged .null
  | bool {value} : Merged (.bool value)
  | whole {value} : Merged (.whole value)
  | real {value} : Merged (.real value)
  | string {text} : Merged (.string text)
  | array {items} : (∀ item ∈ items, Merged item) → Merged (.array items)
  | object {entries} :
      (entries.map Prod.fst).Nodup → (∀ entry ∈ entries, Merged entry.2) →
      Merged (.object entries)

theorem Merged.assign {key : String} {value : Json} {entries : List (String × Json)}
    (object : Merged (.object entries)) (merged : Merged value) :
    Merged (.object (Json.assign key value entries)) := by
  cases object with
  | object distinct each =>
      refine .object (nodup_names_assign distinct key value) fun entry mem => ?_
      rcases mem_assign mem with old | rfl
      · exact each entry old
      · exact merged

mutual

/-- Merging repeated keys leaves none. -/
theorem merged_normalise : (value : Json) → value.normalise.Merged
  | .null => .null
  | .bool _ => .bool
  | .whole _ => .whole
  | .real _ => .real
  | .string _ => .string
  | .array items => .array (merged_normaliseItems items)
  | .object entries => merged_normaliseEntries entries [] (.object List.nodup_nil (by simp))

theorem merged_normaliseItems :
    (items : List Json) → ∀ item ∈ normaliseItems items, item.Merged
  | [], _, mem => nomatch mem
  | item :: rest, other, mem => by
      rcases List.mem_cons.mp mem with rfl | later
      · exact merged_normalise item
      · exact merged_normaliseItems rest other later

theorem merged_normaliseEntries :
    (entries collected : List (String × Json)) → Merged (.object collected) →
      Merged (.object (normaliseEntries collected entries))
  | [], _, merged => merged
  | (_, value) :: rest, _, merged =>
      merged_normaliseEntries rest _ (merged.assign (merged_normalise value))

end

theorem normaliseItems_eq_map (items : List Json) :
    normaliseItems items = items.map normalise := by
  induction items with
  | nil => rfl
  | cons item rest ih => rw [normaliseItems, ih, List.map_cons]

theorem normaliseEntries_eq_foldl (collected entries : List (String × Json)) :
    normaliseEntries collected entries =
      (entries.map fun entry => (entry.1, entry.2.normalise)).foldl
        (fun collected entry => assign entry.1 entry.2 collected) collected := by
  induction entries generalizing collected with
  | nil => rfl
  | cons entry rest ih => rw [normaliseEntries, ih, List.map_cons, List.foldl_cons]

/-- A value without repeated keys is left alone. -/
theorem Merged.normalise_eq {value : Json} (merged : value.Merged) : value.normalise = value := by
  induction merged with
  | null | bool | whole | real | string => rfl
  | array _ ih => rw [normalise, normaliseItems_eq_map, List.map_congr_left ih, List.map_id']
  | @object entries distinct _ ih =>
      have asTheyAre : (entries.map fun entry => (entry.1, entry.2.normalise)) = entries :=
        (List.map_congr_left fun entry mem => by rw [ih entry mem]).trans (List.map_id' entries)
      rw [normalise, normaliseEntries_eq_foldl, asTheyAre,
        foldl_assign_of_nodup (by simpa using distinct), List.nil_append]

theorem depth_le_depthItems {item : Json} {items : List Json} (mem : item ∈ items) :
    item.depth ≤ depthItems items := by
  induction items with
  | nil => cases mem
  | cons first rest ih =>
      rw [depthItems]
      rcases List.mem_cons.mp mem with rfl | later
      · exact Nat.le_max_left _ _
      · exact Nat.le_trans (ih later) (Nat.le_max_right _ _)

end CrossQuery.Json
