import CrossQuery.Dataset
import CrossQuery.Proofs.Catalog.Building

/-!
# The catalog of a dataset

The tables of the catalog are those of the dataset at the same places, and the fields of each
table are the fields of its table in the dataset.
-/

set_option autoImplicit false

namespace CrossQuery

/-- What a field of a catalog shares with the field of a dataset that it stands for. -/
abbrev Traits := String × BaseType × Option SpecialType

def Field.traits (field : Field) : Traits :=
  (field.name, field.baseType, field.specialType)

def DatasetField.traits (field : DatasetField) : Traits :=
  (field.name, field.baseType, field.specialType)

namespace Dataset

open CatalogBuilder

/-- A builder that holds the given tables of a dataset with their fields, and nothing else. -/
structure Installed (databaseId : Int) (tables : List DatasetTable) (builder : CatalogBuilder) :
    Prop where
  orderly : builder.Orderly
  sameTables : builder.catalog.tables.map (fun table => (table.databaseId, table.name)) =
    tables.map fun table => (databaseId, table.name)
  sameFields : ∀ (place : Nat) (table : DatasetTable), tables[place]? = some table →
    (builder.catalog.fieldsOf (Int.ofNat place + 1)).map Field.traits =
      table.fields.map DatasetField.traits

theorem Installed.length_tables {databaseId : Int} {tables : List DatasetTable}
    {builder : CatalogBuilder} (installed : Installed databaseId tables builder) :
    builder.catalog.tables.length = tables.length := by
  simpa using congrArg List.length installed.sameTables

theorem builder_addField (tableId : Int) (state : Installation) (field : DatasetField) :
    (state.addField tableId field).builder =
      (state.builder.addField tableId (fieldSpec field)).2 := by
  unfold Installation.addField
  rfl

/-- Fields that are added to a table come behind the fields that it has. -/
theorem foldl_addField {tableId : Int} (positive : 1 ≤ tableId) (fields : List DatasetField)
    {state : Installation} (orderly : state.builder.Orderly)
    (most : tableId ≤ state.builder.catalog.tables.length) :
    (fields.foldl (Installation.addField tableId) state).builder.Orderly ∧
      (fields.foldl (Installation.addField tableId) state).builder.catalog.tables =
        state.builder.catalog.tables ∧
      ∀ id, ((fields.foldl (Installation.addField tableId) state).builder.catalog.fieldsOf id).map
          Field.traits =
        (state.builder.catalog.fieldsOf id).map Field.traits ++
          if id = tableId then fields.map DatasetField.traits else [] := by
  induction fields generalizing state with
  | nil => exact ⟨orderly, rfl, fun id => by simp⟩
  | cons field rest ih =>
      have catalog := orderly.addField_catalog positive most (fieldSpec field)
      have stepOrderly : (state.addField tableId field).builder.Orderly := by
        rw [builder_addField]
        exact orderly.addField positive most _
      have stepTables : (state.addField tableId field).builder.catalog.tables =
          state.builder.catalog.tables := by
        rw [builder_addField, catalog]
      obtain ⟨afterOrderly, afterTables, afterFields⟩ :=
        ih stepOrderly (by rw [stepTables]; exact most)
      refine ⟨afterOrderly, afterTables.trans stepTables, fun id => ?_⟩
      rw [List.foldl_cons, afterFields, builder_addField, catalog, fieldsOf_addField]
      by_cases same : id = tableId
      · simp [same, addedField, fieldSpec, Field.traits, DatasetField.traits]
      · simp [same]

theorem Installed.addTable {databaseId : Int} {tables : List DatasetTable}
    {state : Installation} (installed : Installed databaseId tables state.builder)
    (table : DatasetTable) :
    Installed databaseId (tables ++ [table]) (state.addTable databaseId table).builder := by
  let begun : Installation :=
    { builder := (state.builder.addTable databaseId table.name).2
      tableIds := (table.name, state.builder.nextTable) :: state.tableIds
      pending := state.pending }
  have unfolded : state.addTable databaseId table =
      table.fields.foldl (Installation.addField state.builder.nextTable) begun := rfl
  have begunTables : begun.builder.catalog.tables =
      state.builder.catalog.tables ++
        [⟨state.builder.nextTable, databaseId, table.name, none⟩] := rfl
  have begunFields (id : Int) :
      begun.builder.catalog.fieldsOf id = state.builder.catalog.fieldsOf id := rfl
  have id := installed.orderly.nextTable
  have length := installed.length_tables
  obtain ⟨orderly, sameTables, fields⟩ :=
    foldl_addField (by omega : 1 ≤ state.builder.nextTable) table.fields
      (installed.orderly.addTable databaseId table.name : begun.builder.Orderly)
      (by rw [begunTables]; simp; omega)
  rw [← unfolded] at orderly sameTables fields
  refine ⟨orderly, ?_, ?_⟩
  · rw [sameTables, begunTables, List.map_append, installed.sameTables]
    simp
  · intro place other found
    rw [fields, begunFields, id, length]
    rw [List.getElem?_append] at found
    by_cases earlier : place < tables.length
    · rw [if_pos earlier] at found
      rw [installed.sameFields place other found, if_neg (by rw [Int.ofNat_eq_natCast]; omega),
        List.append_nil]
    · rw [if_neg earlier] at found
      have last : place = tables.length := by
        have below := (List.getElem?_eq_some_iff.mp found).1
        simp at below
        omega
      subst last
      rw [Nat.sub_self] at found
      obtain rfl : table = other := by simpa using found
      rw [installed.orderly.fieldsOf_of_lt (by rw [length, Int.ofNat_eq_natCast]; omega)]
      simp

theorem installed_foldl {databaseId : Int} (rest : List DatasetTable) {done : List DatasetTable}
    {state : Installation} (installed : Installed databaseId done state.builder) :
    Installed databaseId (done ++ rest)
      (rest.foldl (Installation.addTable databaseId) state).builder := by
  induction rest generalizing done state with
  | nil => simpa using installed
  | cons table others ih =>
      have step := ih (installed.addTable table)
      rwa [List.append_assoc] at step

theorem Installed.setForeignKey {databaseId : Int} {tables : List DatasetTable}
    {builder : CatalogBuilder} (installed : Installed databaseId tables builder)
    (fieldId target : Int) :
    Installed databaseId tables (builder.setForeignKey fieldId target) := by
  have sameTraits : Field.traits ∘ retarget fieldId target = Field.traits := by
    funext field
    simp only [Function.comp_apply, retarget]
    split <;> rfl
  refine ⟨installed.orderly.setForeignKey fieldId target, installed.sameTables, ?_⟩
  intro place table found
  rw [fieldsOf_setForeignKey, List.map_map, sameTraits]
  exact installed.sameFields place table found

/-- Steps that keep what a builder holds keep it together. -/
theorem foldl_installed {databaseId : Int} {tables : List DatasetTable}
    {step : CatalogBuilder → Int × String → CatalogBuilder}
    (keeps : ∀ builder entry, Installed databaseId tables builder →
      Installed databaseId tables (step builder entry))
    (pending : List (Int × String)) {builder : CatalogBuilder}
    (installed : Installed databaseId tables builder) :
    Installed databaseId tables (pending.foldl step builder) := by
  induction pending generalizing builder with
  | nil => exact installed
  | cons entry rest ih => exact ih (keeps builder entry installed)

/-- The catalog of a dataset holds its tables with their fields. -/
theorem installed_install (dataset : Dataset) :
    Installed dataset.databaseId dataset.tables (dataset.install .empty) := by
  have empty : Installed dataset.databaseId [] CatalogBuilder.empty :=
    ⟨orderly_empty, rfl, fun place table found => by simp at found⟩
  let begun : Installation := ⟨.empty, [], []⟩
  have added := installed_foldl dataset.tables (show Installed _ [] begun.builder from empty)
  rw [List.nil_append] at added
  unfold install Installation.finish
  generalize dataset.tables.foldl (Installation.addTable dataset.databaseId) begun = state
    at added ⊢
  refine foldl_installed (fun builder entry installed => ?_) state.pending added
  dsimp only
  split
  · exact installed.setForeignKey _ _
  · exact installed

/-- A table of the catalog of a dataset: the table of the dataset that it stands for, and its
fields in order. -/
structure Describes (dataset : Dataset) (source : Table) (table : DatasetTable)
    (fields : List Field) : Prop where
  isTable : table ∈ dataset.tables
  name : source.name = table.name
  databaseId : source.databaseId = dataset.databaseId
  listed : dataset.catalog.fields source.id = .ok fields
  traits : fields.map Field.traits = table.fields.map DatasetField.traits
  positions : fields.map Field.position = List.range fields.length
  distinctIds : (fields.map Field.id).Nodup
  tableId : ∀ field ∈ fields, field.tableId = source.id
  found : ∀ field ∈ fields, dataset.catalog.field field.id = .ok field
  complete : ∀ (id : Int) (field : Field),
    dataset.catalog.field id = .ok field → field.tableId = source.id → field ∈ fields

/-- Every table of the catalog stands for one of the dataset. -/
theorem exists_describes {dataset : Dataset} {id : Int} {source : Table}
    (known : dataset.catalog.table id = .ok source) :
    ∃ table fields, dataset.Describes source table fields := by
  have installed := dataset.installed_install
  have member : source ∈ (dataset.install .empty).catalog.tables := (mem_of_table_eq_ok known).1
  have ids := installed.orderly.tableIds
  obtain ⟨place, below, isPlace⟩ := List.mem_iff_getElem.mp member
  have sourceId : source.id = Int.ofNat place + 1 := by
    have atPlace := congrArg (·[place]?) ids
    simpa [countedIds, isPlace, below, List.getElem?_eq_getElem below] using atPlace
  have samePlace := congrArg (·[place]?) installed.sameTables
  have inTables : place < dataset.tables.length := installed.length_tables ▸ below
  simp only [List.getElem?_map, List.getElem?_eq_getElem below,
    List.getElem?_eq_getElem inTables, Option.map_some, Option.some.injEq, Prod.mk.injEq,
    isPlace] at samePlace
  have bounds : 1 ≤ source.id ∧
      source.id ≤ (dataset.install .empty).catalog.tables.length := by
    rw [sourceId, Int.ofNat_eq_natCast]
    omega
  refine ⟨dataset.tables[place], dataset.catalog.fieldsOf source.id, ?_⟩
  exact
    { isTable := List.getElem_mem inTables
      name := samePlace.2
      databaseId := samePlace.1
      listed := installed.orderly.fields_eq bounds.1 bounds.2
      traits := by
        rw [sourceId]
        exact installed.sameFields place _ (List.getElem?_eq_getElem inTables)
      positions := installed.orderly.positions source.id
      distinctIds := by
        have all := nodup_countedIds (dataset.install .empty).catalog.allFields.length
        rw [← installed.orderly.fieldIds] at all
        exact all.sublist (List.filter_sublist.map _)
      tableId := fun field member => by simpa using (List.mem_filter.mp member).2
      found := fun field member => by
        have found := installed.orderly.field?_eq (List.mem_filter.mp member).1
        unfold Catalog.field
        rw [show dataset.catalog.field? field.id = some field from found]
      complete := fun id field found isHere =>
        List.mem_filter.mpr ⟨(mem_of_field_eq_ok found).1, by simpa using isHere⟩ }

end Dataset

end CrossQuery
