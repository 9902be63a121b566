import CrossQuery.Proofs.Catalog.Additions
import CrossQuery.Proofs.Catalog.Built

/-!
# Catalogs by the calls they were built with

A catalog lists for each table the fields that were added to it since it was made, in this order. A
field that was added to a table before the table was made is known, but is left out of the list.
-/

set_option autoImplicit false

namespace CrossQuery

theorem filterMap_eq_mapIdx {α β : Type} {find : α → Option β} {image : Nat → α → β}
    {items : List α}
    (found : ∀ (place : Nat) (item : α), items[place]? = some item →
      find item = some (image place item)) :
    items.filterMap find = items.mapIdx image := by
  induction items generalizing image with
  | nil => rfl
  | cons item rest ih =>
      have later : rest.filterMap find = rest.mapIdx fun place => image (place + 1) :=
        ih fun place other isOther => found (place + 1) other isOther
      rw [List.filterMap_cons_some (found 0 item rfl), later, List.mapIdx_cons]

namespace CatalogBuilder

open BuilderCall

/-- The builder after a call. -/
def ask (builder : CatalogBuilder) : BuilderCall → CatalogBuilder
  | .table databaseId name => (builder.addTable databaseId name).2
  | .field tableId spec => (builder.addField tableId spec).2
  | .foreignKey fieldId target => builder.setForeignKey fieldId target

/-- The builder after calls from the start. -/
def ofCalls (calls : List BuilderCall) : CatalogBuilder :=
  calls.foldl ask empty

theorem ofCalls_append (calls : List BuilderCall) (call : BuilderCall) :
    ofCalls (calls ++ [call]) = (ofCalls calls).ask call := by
  rw [ofCalls, List.foldl_append]
  rfl

theorem built_ofCalls (calls : List BuilderCall) : (ofCalls calls).Built := by
  induction calls using List.reverseRecOn with
  | nil => exact .empty
  | append_singleton calls call ih =>
      rw [ofCalls_append]
      cases call with
      | table databaseId name => exact .addTable databaseId name ih
      | field tableId spec => exact .addField tableId spec ih
      | foreignKey fieldId target => exact .setForeignKey fieldId target ih

/-- A builder whose tables and fields are those that were asked for. -/
structure Records (calls : List BuilderCall) (builder : CatalogBuilder) : Prop where
  tableIds : builder.catalog.tables.map Table.id = countedIds (tableCount calls)
  nextTable : builder.nextTable = tableCount calls + 1
  fieldIds : builder.catalog.allFields.map Field.id = countedIds (additions calls).length
  nextField : builder.nextField = (additions calls).length + 1
  lists : ∀ tableId, builder.catalog.tableFields.lookup tableId =
    if isKnown calls tableId then some ((listedFor calls tableId).map Addition.id) else none
  fields : ∀ (tableId : Int) (place : Nat) (addition : Addition),
    (listedFor calls tableId)[place]? = some addition →
    builder.catalog.field? addition.id = some (addition.field place)

section Steps

variable {calls : List BuilderCall} {builder : CatalogBuilder}

theorem records_empty : empty.Records [] := by
  constructor
  · rfl
  · rfl
  · rfl
  · rfl
  · intro tableId
    have unknown : isKnown [] tableId = false := by
      rw [isKnown, tableCount]
      simp [additions, additionsAfter]
      omega
    rw [unknown]
    rfl
  · intro tableId place addition found
    cases found

theorem Records.addTable (records : builder.Records calls) (databaseId : Int) (name : String) :
    (builder.addTable databaseId name).2.Records (calls ++ [.table databaseId name]) := by
  constructor
  · rw [tableCount_table, countedIds_succ, ← records.tableIds]
    simp [CatalogBuilder.addTable, records.nextTable]
  · simp [CatalogBuilder.addTable, records.nextTable, tableCount_table]
  · rw [additions_table]
    exact records.fieldIds
  · rw [additions_table]
    exact records.nextField
  · intro tableId
    simp only [CatalogBuilder.addTable, lookup_setFields, records.nextTable, isKnown_table,
      listedFor_table, records.lists]
    by_cases isNew : tableId = tableCount calls + 1
    · simp [isNew]
    · simp [isNew]
  · intro tableId place addition found
    rw [listedFor_table] at found
    split at found
    · cases found
    · exact records.fields tableId place addition found

theorem Records.getD_lookup (records : builder.Records calls) (tableId : Int) :
    (builder.catalog.tableFields.lookup tableId).getD [] =
      (listedFor calls tableId).map Addition.id := by
  rw [records.lists]
  cases known : isKnown calls tableId with
  | true => rfl
  | false => simp [listedFor_eq_nil known]

theorem Records.newField_eq (records : builder.Records calls) (tableId : Int) (spec : FieldSpec) :
    builder.newField tableId spec =
      Addition.field ⟨(additions calls).length + 1, tableId, spec, tableCount calls⟩
        (listedFor calls tableId).length := by
  rw [newField, records.getD_lookup, records.nextField, List.length_map]
  rfl

theorem Records.addField (records : builder.Records calls) (listing : builder.Listing)
    (tableId : Int) (spec : FieldSpec) :
    (builder.addField tableId spec).2.Records (calls ++ [.field tableId spec]) := by
  constructor
  · rw [tableCount_field]
    exact records.tableIds
  · rw [tableCount_field]
    exact records.nextTable
  · rw [additions_field, List.length_append, List.length_singleton, countedIds_succ,
      ← records.fieldIds]
    simp [CatalogBuilder.addField, records.nextField]
  · simp [CatalogBuilder.addField, records.nextField, additions_field]
  · intro other
    simp only [CatalogBuilder.addField, lookup_setFields, isKnown_field, listedFor_field,
      records.getD_lookup, records.nextField]
    by_cases same : other = tableId
    · simp [same]
    · simp [same, records.lists]
  · intro other place addition found
    rcases listedFor_field_cases found with earlier | ⟨rfl, rfl, rfl⟩
    · exact field?_addField_of_some (records.fields other place addition earlier) tableId spec
    · have known := listing.field?_addField other spec
      rwa [records.newField_eq, records.nextField] at known

theorem Records.setForeignKey (records : builder.Records calls) (fieldId target : Int) :
    (builder.setForeignKey fieldId target).Records (calls ++ [.foreignKey fieldId target]) := by
  have sameId : Field.id ∘ CatalogBuilder.retarget fieldId target = Field.id := by
    funext field
    exact retarget_id fieldId target field
  have sameAdditionId : Addition.id ∘ Addition.retarget fieldId target = Addition.id := by
    funext addition
    exact addition.id_retarget fieldId target
  constructor
  · rw [tableCount_foreignKey]
    exact records.tableIds
  · rw [tableCount_foreignKey]
    exact records.nextTable
  · rw [setForeignKey_allFields, List.map_map, sameId, additions_foreignKey, List.length_map]
    exact records.fieldIds
  · rw [additions_foreignKey, List.length_map]
    exact records.nextField
  · intro tableId
    rw [isKnown_foreignKey, listedFor_foreignKey, List.map_map, sameAdditionId]
    exact records.lists tableId
  · intro tableId place addition found
    rw [listedFor_foreignKey, List.getElem?_map] at found
    obtain ⟨original, isOriginal, rfl⟩ := Option.map_eq_some_iff.mp found
    have known := records.fields tableId place original isOriginal
    rw [field?_setForeignKey, Addition.id_retarget, known, Option.map_some,
      Addition.field_retarget]

theorem records_ofCalls (calls : List BuilderCall) : (ofCalls calls).Records calls := by
  -- The induction is from the end, as each call is made to the builder of those before it.
  induction calls using List.reverseRecOn with
  | nil => exact records_empty
  | append_singleton calls call ih =>
      rw [ofCalls_append]
      cases call with
      | table databaseId name => exact ih.addTable databaseId name
      | field tableId spec => exact ih.addField (built_ofCalls calls).listing tableId spec
      | foreignKey fieldId target => exact ih.setForeignKey fieldId target

end Steps

end CatalogBuilder

/-- A catalog of so many tables and fields, each with an identifier of its own. -/
structure Catalog.Identifies (catalog : Catalog) (tables fields : Nat) : Prop where
  tables : catalog.tables.length = tables
  tableIds : (catalog.tables.map Table.id).Nodup
  fields : catalog.allFields.length = fields
  fieldIds : (catalog.allFields.map Field.id).Nodup

/-- A catalog that lists the fields of a table as they were added: each is found under its
identifier, the positions count them from zero, and the first primary key of them is the table's. -/
structure Catalog.Lists (catalog : Catalog) (tableId : Int) (additions : List Addition) : Prop where
  fields : catalog.fields tableId = .ok (describedFields additions)
  positions : (describedFields additions).map Field.position = List.range additions.length
  found : ∀ field ∈ describedFields additions, catalog.field field.id = .ok field
  primaryKey : catalog.primaryKey tableId =
    .ok ((describedFields additions).find? fun field => field.specialType == some .id)

namespace CatalogBuilder

open BuilderCall

section Listed

variable {calls : List BuilderCall} {builder : CatalogBuilder} {tableId : Int}

theorem Records.identifies (records : builder.Records calls) :
    builder.catalog.Identifies (tableCount calls) (additions calls).length := by
  constructor
  · simpa [countedIds] using congrArg List.length records.tableIds
  · rw [records.tableIds]
    exact nodup_countedIds _
  · simpa [countedIds] using congrArg List.length records.fieldIds
  · rw [records.fieldIds]
    exact nodup_countedIds _

theorem Records.fields_eq (records : builder.Records calls)
    (known : isKnown calls tableId = true) :
    builder.catalog.fields tableId = .ok (describedFields (listedFor calls tableId)) := by
  have sorted : (describedFields (listedFor calls tableId)).Pairwise
      fun left right => decide (left.position ≤ right.position) = true := by
    have ascending : ((describedFields (listedFor calls tableId)).map Field.position).Pairwise
        (· < ·) := by
      rw [map_position_describedFields]
      exact List.pairwise_lt_range
    rw [List.pairwise_map] at ascending
    exact ascending.imp fun less => decide_eq_true (Nat.le_of_lt less)
  have fields : (listedFor calls tableId).filterMap (builder.catalog.field? ∘ Addition.id) =
      describedFields (listedFor calls tableId) :=
    filterMap_eq_mapIdx fun place addition => records.fields tableId place addition
  rw [Catalog.fields, Catalog.listedFields, records.lists, known]
  simp only [if_true, Except.map, List.filterMap_map, fields]
  rw [List.mergeSort_of_pairwise sorted]

theorem Records.fields_of_unknown (records : builder.Records calls)
    (unknown : isKnown calls tableId = false) :
    builder.catalog.fields tableId = .error ⟨.table, Catalog.idText tableId⟩ := by
  rw [Catalog.fields, Catalog.listedFields, records.lists, unknown]
  rfl

theorem Records.listsFields (records : builder.Records calls)
    (known : isKnown calls tableId = true) :
    builder.catalog.Lists tableId (listedFor calls tableId) := by
  have fields := records.fields_eq known
  constructor
  · exact fields
  · exact map_position_describedFields
  · intro field member
    exact Catalog.field_of_mem_fields fields member
  · rw [Catalog.primaryKey, fields]
    rfl

theorem Records.lists_addedTo_iff (records : builder.Records calls) :
    builder.catalog.Lists tableId (addedTo calls tableId) ↔
      isKnown calls tableId = true ∧
        ∀ addition ∈ addedTo calls tableId, addition.isEarly (tableCount calls) = false := by
  constructor
  · intro lists
    have listed := lists.fields
    cases known : isKnown calls tableId with
    | false =>
        rw [records.fields_of_unknown known] at listed
        cases listed
    | true =>
        rw [records.fields_eq known] at listed
        have sameLength := congrArg List.length (Except.ok.inj listed)
        rw [length_describedFields, length_describedFields] at sameLength
        -- What is listed is part of what was added, so that it is enough to count.
        have same : listedFor calls tableId = addedTo calls tableId :=
          List.filter_sublist.eq_of_length sameLength
        exact ⟨rfl, listedFor_eq_addedTo_iff.mp same⟩
  · rintro ⟨known, inTime⟩
    rw [← listedFor_eq_addedTo_iff.mpr inTime]
    exact records.listsFields known

end Listed

/-- Each table and field that is asked for has an identifier of its own, and the fields of a table
are listed as they were added to it since it was made. These are all that were added to it exactly
if none was added before the table was made. -/
theorem lists_added_iff (calls : List BuilderCall) :
    (ofCalls calls).catalog.Identifies (tableCount calls) (additions calls).length ∧
      ∀ tableId,
        (isKnown calls tableId = true →
          (ofCalls calls).catalog.Lists tableId (listedFor calls tableId)) ∧
        ((ofCalls calls).catalog.Lists tableId (addedTo calls tableId) ↔
          isKnown calls tableId = true ∧
            ∀ addition ∈ addedTo calls tableId, addition.isEarly (tableCount calls) = false) := by
  have records := records_ofCalls calls
  constructor
  · exact records.identifies
  · intro tableId
    exact ⟨records.listsFields, records.lists_addedTo_iff⟩

/-- Two tables whose fields are added in turns, one of them with a target that is set later. -/
def venueCalls : List BuilderCall :=
  [.table 1 "categories", .table 1 "venues",
    .field 2 ⟨"category_id", .integer, none, none, none⟩,
    .field 1 ⟨"id", .integer, some .id, none, none⟩,
    .field 2 ⟨"id", .integer, some .id, none, none⟩, .foreignKey 1 1]

theorem venues_listed :
    isKnown venueCalls 2 = true ∧
      (∀ addition ∈ addedTo venueCalls 2, addition.isEarly (tableCount venueCalls) = false) ∧
      (ofCalls venueCalls).catalog.Lists 2 (addedTo venueCalls 2) ∧
      describedFields (addedTo venueCalls 2) =
        [⟨1, 2, "category_id", .integer, none, some 1, none, 0⟩,
          ⟨3, 2, "id", .integer, some .id, none, none, 1⟩] := by
  have known : isKnown venueCalls 2 = true := by decide
  have inTime : ∀ addition ∈ addedTo venueCalls 2,
      addition.isEarly (tableCount venueCalls) = false := by decide
  obtain ⟨_, lists⟩ := lists_added_iff venueCalls
  exact ⟨known, inTime, (lists 2).2.mpr ⟨known, inTime⟩, by decide⟩

/-- A table that is made after its primary key was added to it. -/
def earlyCalls : List BuilderCall :=
  [.field 1 ⟨"id", .integer, some .id, none, none⟩, .table 1 "venues",
    .field 1 ⟨"name", .text, none, none, none⟩]

/-- The field that was added early is known as a field of the table, but is not listed for it. The
next field gets its position, and the table has no primary key. -/
theorem early_field_not_listed :
    ¬ (ofCalls earlyCalls).catalog.Lists 1 (addedTo earlyCalls 1) ∧
      describedFields (addedTo earlyCalls 1) =
        [⟨1, 1, "id", .integer, some .id, none, none, 0⟩,
          ⟨2, 1, "name", .text, none, none, none, 1⟩] ∧
      (ofCalls earlyCalls).catalog.field 1 =
        .ok ⟨1, 1, "id", .integer, some .id, none, none, 0⟩ ∧
      (ofCalls earlyCalls).catalog.fields 1 =
        .ok [⟨2, 1, "name", .text, none, none, none, 0⟩] ∧
      (ofCalls earlyCalls).catalog.primaryKey 1 = .ok none := by
  have fields : (ofCalls earlyCalls).catalog.fields 1 =
      .ok [⟨2, 1, "name", .text, none, none, none, 0⟩] :=
    (records_ofCalls earlyCalls).fields_eq (by decide)
  have added : describedFields (addedTo earlyCalls 1) =
      [⟨1, 1, "id", .integer, some .id, none, none, 0⟩,
        ⟨2, 1, "name", .text, none, none, none, 1⟩] := by decide
  refine ⟨?_, added, by decide, fields, ?_⟩
  · intro lists
    have listed := lists.fields
    rw [fields, added] at listed
    exact absurd (Except.ok.inj listed) (by decide)
  · rw [Catalog.primaryKey, fields]
    rfl

end CatalogBuilder

end CrossQuery
