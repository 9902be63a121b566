import CrossQuery.Catalog.Builder
import CrossQuery.Proofs.Outcome

/-!
# Catalogs in order

A builder is in order as long as fields are added to tables that are there. Identifiers are then
the places of tables and fields, counted from one, and the list of each table names its fields in
the order in which they were added.
-/

set_option autoImplicit false

namespace CrossQuery

/-- The fields of a table, as they were added. -/
def Catalog.fieldsOf (catalog : Catalog) (tableId : Int) : List Field :=
  catalog.allFields.filter fun field => field.tableId == tableId

/-- The identifiers of so many things that were added one after the other. -/
def countedIds (count : Nat) : List Int :=
  (List.range count).map fun place => Int.ofNat place + 1

theorem countedIds_succ (count : Nat) :
    countedIds (count + 1) = countedIds count ++ [(count : Int) + 1] := by
  simp [countedIds, List.range_succ]

theorem nodup_countedIds (count : Nat) : (countedIds count).Nodup := by
  induction count with
  | zero => exact List.nodup_nil
  | succ count ih =>
      rw [countedIds_succ, List.nodup_append]
      refine ⟨ih, by simp, ?_⟩
      intro id member other isLast same
      simp only [countedIds, List.mem_map, List.mem_range] at member
      obtain ⟨place, below, rfl⟩ := member
      rw [List.mem_singleton.mp isLast, Int.ofNat_eq_natCast] at same
      omega

/-- The first item with a key is the item, if no other item has the key. -/
theorem find?_key_of_nodup {α κ : Type} [BEq κ] [LawfulBEq κ] {key : α → κ} {items : List α}
    (distinct : (items.map key).Nodup) {item : α} (member : item ∈ items) :
    items.find? (fun other => key other == key item) = some item := by
  induction items with
  | nil => cases member
  | cons first rest ih =>
      rw [List.map_cons, List.nodup_cons] at distinct
      rcases List.mem_cons.mp member with rfl | later
      · simp
      · have different : key first ≠ key item := by
          intro same
          exact distinct.1 (same ▸ List.mem_map_of_mem later)
        rw [List.find?_cons_of_neg (by simpa using different)]
        exact ih distinct.2 later

theorem eq_of_key_eq {α κ : Type} [BEq κ] [LawfulBEq κ] {key : α → κ} {items : List α}
    (distinct : (items.map key).Nodup) {left right : α} (isLeft : left ∈ items)
    (isRight : right ∈ items) (same : key left = key right) : left = right := by
  have found := find?_key_of_nodup distinct isLeft
  rw [same, find?_key_of_nodup distinct isRight] at found
  exact (Option.some.inj found).symm

theorem nodup_of_map {α κ : Type} {key : α → κ} {items : List α}
    (distinct : (items.map key).Nodup) : items.Nodup := by
  rw [List.Nodup, List.pairwise_map] at distinct
  exact distinct.imp fun different same => different (congrArg key same)

theorem filter_key_of_nodup {α κ : Type} [BEq κ] [LawfulBEq κ] {key : α → κ} {items : List α}
    (distinct : (items.map key).Nodup) {item : α} (member : item ∈ items) :
    (items.filter fun other => key other == key item) = [item] := by
  induction items with
  | nil => cases member
  | cons first rest ih =>
      rw [List.map_cons, List.nodup_cons] at distinct
      rcases List.mem_cons.mp member with rfl | later
      · have others : (rest.filter fun other => key other == key item) = [] := by
          rw [List.filter_eq_nil_iff]
          intro other isOther same
          exact distinct.1 (beq_iff_eq.mp same ▸ List.mem_map_of_mem isOther)
        rw [List.filter_cons, others, beq_self_eq_true, if_pos rfl]
      · have different : key first ≠ key item := by
          intro same
          exact distinct.1 (same ▸ List.mem_map_of_mem later)
        rw [List.filter_cons, if_neg (by simpa using different)]
        exact ih distinct.2 later

theorem filterMap_eq_self {α : Type} {find : α → Option α} {items : List α}
    (known : ∀ item ∈ items, find item = some item) : items.filterMap find = items := by
  induction items with
  | nil => rfl
  | cons item rest ih =>
      rw [List.filterMap_cons_some (known item List.mem_cons_self),
        ih fun other member => known other (List.mem_cons_of_mem _ member)]

namespace CatalogBuilder

theorem lookup_setFields (tableId other : Int) (ids : List Int) (lists : List (Int × List Int)) :
    (setFields tableId ids lists).lookup other =
      if other = tableId then some ids else lists.lookup other := by
  induction lists with
  | nil =>
      by_cases same : other = tableId
      · simp [setFields, same]
      · have differs : (other == tableId) = false := by simpa using same
        simp [setFields, List.lookup_cons, same, differs]
  | cons entry rest ih =>
      obtain ⟨id, old⟩ := entry
      by_cases found : id = tableId
      · subst found
        by_cases same : other = id
        · simp [setFields, same]
        · have differs : (other == id) = false := by simpa using same
          simp [setFields, List.lookup_cons, same, differs]
      · by_cases same : other = tableId
        · have differs : (tableId == id) = false := by simpa using Ne.symm found
          subst same
          simp [setFields, found, List.lookup_cons, differs, ih]
        · simp only [setFields, found, if_false, List.lookup_cons, ih, same]

/-- A builder whose fields were all added to tables that were there. -/
structure Orderly (builder : CatalogBuilder) : Prop where
  tableIds : builder.catalog.tables.map Table.id = countedIds builder.catalog.tables.length
  nextTable : builder.nextTable = builder.catalog.tables.length + 1
  fieldIds : builder.catalog.allFields.map Field.id = countedIds builder.catalog.allFields.length
  nextField : builder.nextField = builder.catalog.allFields.length + 1
  placed : ∀ field ∈ builder.catalog.allFields,
    1 ≤ field.tableId ∧ field.tableId ≤ builder.catalog.tables.length
  listed : ∀ id : Int, 1 ≤ id → id ≤ builder.catalog.tables.length →
    builder.catalog.tableFields.lookup id = some ((builder.catalog.fieldsOf id).map Field.id)
  positions : ∀ id : Int, (builder.catalog.fieldsOf id).map Field.position =
    List.range (builder.catalog.fieldsOf id).length

theorem orderly_empty : empty.Orderly :=
  { tableIds := rfl
    nextTable := rfl
    fieldIds := rfl
    nextField := rfl
    placed := fun _ member => absurd member List.not_mem_nil
    listed := by
      intro id positive most
      have none : id ≤ 0 := most
      omega
    positions := fun _ => rfl }

section Steps

variable {builder : CatalogBuilder}

theorem Orderly.fieldsOf_of_lt (orderly : builder.Orderly) {id : Int}
    (beyond : (builder.catalog.tables.length : Int) < id) : builder.catalog.fieldsOf id = [] := by
  rw [Catalog.fieldsOf, List.filter_eq_nil_iff]
  intro field member
  have bounds := orderly.placed field member
  simp only [beq_iff_eq]
  omega

theorem Orderly.addTable (orderly : builder.Orderly) (databaseId : Int) (name : String) :
    (builder.addTable databaseId name).2.Orderly := by
  have length : (builder.addTable databaseId name).2.catalog.tables.length =
      builder.catalog.tables.length + 1 := by
    simp [CatalogBuilder.addTable]
  have sameFields (id : Int) :
      (builder.addTable databaseId name).2.catalog.fieldsOf id = builder.catalog.fieldsOf id := rfl
  constructor
  · rw [length, countedIds_succ, ← orderly.tableIds]
    simp [CatalogBuilder.addTable, orderly.nextTable]
  · simp [CatalogBuilder.addTable, orderly.nextTable]
  · exact orderly.fieldIds
  · exact orderly.nextField
  · intro field member
    have bounds := orderly.placed field member
    rw [length]
    omega
  · intro id positive most
    rw [sameFields]
    simp only [CatalogBuilder.addTable, lookup_setFields, orderly.nextTable]
    by_cases last : id = builder.catalog.tables.length + 1
    · rw [if_pos last, orderly.fieldsOf_of_lt (by omega)]
      rfl
    · rw [if_neg last]
      rw [length] at most
      exact orderly.listed id positive (by omega)
  · exact orderly.positions

/-- The field that is added to the end of a table's list. -/
def addedField (builder : CatalogBuilder) (tableId : Int) (spec : FieldSpec) : Field :=
  { id := builder.nextField
    tableId := tableId
    name := spec.name
    baseType := spec.baseType
    specialType := spec.specialType
    target := spec.target
    description := spec.description
    position := (builder.catalog.fieldsOf tableId).length }

theorem Orderly.addField_catalog (orderly : builder.Orderly) {tableId : Int}
    (positive : 1 ≤ tableId) (most : tableId ≤ builder.catalog.tables.length) (spec : FieldSpec) :
    (builder.addField tableId spec).2.catalog =
      { tables := builder.catalog.tables
        allFields := builder.catalog.allFields ++ [builder.addedField tableId spec]
        tableFields := setFields tableId
          ((builder.catalog.fieldsOf tableId).map Field.id ++ [builder.nextField])
          builder.catalog.tableFields } := by
  have listed := orderly.listed tableId positive most
  simp [CatalogBuilder.addField, addedField, listed]

theorem fieldsOf_addField (tableId other : Int) (spec : FieldSpec) (lists : List (Int × List Int)) :
    Catalog.fieldsOf
        { tables := builder.catalog.tables
          allFields := builder.catalog.allFields ++ [builder.addedField tableId spec]
          tableFields := lists } other =
      builder.catalog.fieldsOf other ++
        if other = tableId then [builder.addedField tableId spec] else [] := by
  by_cases same : other = tableId
  · simp [Catalog.fieldsOf, addedField, same]
  · simp [Catalog.fieldsOf, addedField, same, Ne.symm same]

theorem Orderly.addField (orderly : builder.Orderly) {tableId : Int} (positive : 1 ≤ tableId)
    (most : tableId ≤ builder.catalog.tables.length) (spec : FieldSpec) :
    (builder.addField tableId spec).2.Orderly := by
  have catalog := orderly.addField_catalog positive most spec
  constructor
  · rw [catalog]
    exact orderly.tableIds
  · rw [catalog]
    exact orderly.nextTable
  · rw [catalog]
    simp [countedIds_succ, ← orderly.fieldIds, addedField, orderly.nextField]
  · rw [catalog]
    simp [CatalogBuilder.addField, orderly.nextField]
  · rw [catalog]
    intro field member
    rcases List.mem_append.mp member with earlier | last
    · exact orderly.placed field earlier
    · rw [List.mem_singleton.mp last]
      exact ⟨positive, most⟩
  · rw [catalog]
    intro id idPositive idMost
    rw [fieldsOf_addField, lookup_setFields]
    by_cases same : id = tableId
    · rw [if_pos same, if_pos same, same, List.map_append]
      rfl
    · rw [if_neg same, if_neg same, List.append_nil]
      exact orderly.listed id idPositive idMost
  · rw [catalog]
    intro id
    rw [fieldsOf_addField]
    by_cases same : id = tableId
    · rw [if_pos same, same, List.map_append, orderly.positions, List.length_append,
        List.length_singleton, List.range_succ]
      rfl
    · rw [if_neg same, List.append_nil]
      exact orderly.positions id

/-- A field with its target set, if it is the one to change. -/
def retarget (fieldId target : Int) (field : Field) : Field :=
  if field.id = fieldId then { field with target := some target } else field

theorem setForeignKey_allFields (fieldId target : Int) :
    (builder.setForeignKey fieldId target).catalog.allFields =
      builder.catalog.allFields.map (retarget fieldId target) := rfl

theorem fieldsOf_setForeignKey (fieldId target id : Int) :
    (builder.setForeignKey fieldId target).catalog.fieldsOf id =
      (builder.catalog.fieldsOf id).map (retarget fieldId target) := by
  have sameTable (field : Field) : (retarget fieldId target field).tableId = field.tableId := by
    unfold retarget
    split <;> rfl
  rw [Catalog.fieldsOf, setForeignKey_allFields, List.filter_map, Catalog.fieldsOf]
  congr 2
  funext field
  simp [sameTable]

theorem Orderly.setForeignKey (orderly : builder.Orderly) (fieldId target : Int) :
    (builder.setForeignKey fieldId target).Orderly := by
  have sameId : Field.id ∘ retarget fieldId target = Field.id := by
    funext field
    simp only [Function.comp_apply, retarget]
    split <;> rfl
  have samePosition : Field.position ∘ retarget fieldId target = Field.position := by
    funext field
    simp only [Function.comp_apply, retarget]
    split <;> rfl
  constructor
  · exact orderly.tableIds
  · exact orderly.nextTable
  · rw [setForeignKey_allFields, List.map_map, sameId, orderly.fieldIds, List.length_map]
  · rw [setForeignKey_allFields, List.length_map]
    exact orderly.nextField
  · rw [setForeignKey_allFields]
    intro field member
    obtain ⟨original, isOriginal, rfl⟩ := List.mem_map.mp member
    have bounds := orderly.placed original isOriginal
    unfold retarget
    split <;> exact bounds
  · intro id positive most
    rw [fieldsOf_setForeignKey, List.map_map, sameId]
    exact orderly.listed id positive most
  · intro id
    rw [fieldsOf_setForeignKey, List.map_map, samePosition, List.length_map]
    exact orderly.positions id

/-- The field with an identifier is the one that was given it. -/
theorem Orderly.field?_eq (orderly : builder.Orderly) {field : Field}
    (member : field ∈ builder.catalog.allFields) :
    builder.catalog.field? field.id = some field :=
  find?_key_of_nodup (orderly.fieldIds ▸ nodup_countedIds _) member

theorem mem_of_field_eq_ok {catalog : Catalog} {id : Int} {field : Field}
    (found : catalog.field id = .ok field) : field ∈ catalog.allFields ∧ field.id = id := by
  unfold Catalog.field at found
  cases looked : catalog.field? id with
  | none => rw [looked] at found; cases found
  | some other =>
      rw [looked] at found
      cases found
      exact ⟨List.mem_of_find?_eq_some looked, by simpa using List.find?_some looked⟩

theorem mem_of_table_eq_ok {catalog : Catalog} {id : Int} {table : Table}
    (found : catalog.table id = .ok table) : table ∈ catalog.tables ∧ table.id = id := by
  unfold Catalog.table at found
  split at found
  · next other looked =>
      cases found
      exact ⟨List.mem_of_find?_eq_some looked, by simpa using List.find?_some looked⟩
  · cases found

/-- The fields that are listed for a table are those that were added to it, in that order. -/
theorem Orderly.fields_eq (orderly : builder.Orderly) {id : Int} (positive : 1 ≤ id)
    (most : id ≤ builder.catalog.tables.length) :
    builder.catalog.fields id = .ok (builder.catalog.fieldsOf id) := by
  have known : ∀ field ∈ builder.catalog.fieldsOf id,
      (builder.catalog.field? ∘ Field.id) field = some field :=
    fun field member => orderly.field?_eq (List.mem_filter.mp member).1
  have sorted : (builder.catalog.fieldsOf id).Pairwise
      fun left right => decide (left.position ≤ right.position) = true := by
    have ascending : ((builder.catalog.fieldsOf id).map Field.position).Pairwise (· < ·) := by
      rw [orderly.positions]
      exact List.pairwise_lt_range
    rw [List.pairwise_map] at ascending
    exact ascending.imp fun less => decide_eq_true (Nat.le_of_lt less)
  rw [Catalog.fields, Catalog.listedFields, orderly.listed id positive most]
  simp only [Except.map, List.filterMap_map]
  rw [filterMap_eq_self known, List.mergeSort_of_pairwise sorted]

end Steps

end CatalogBuilder

end CrossQuery
