import CrossQuery.Capability
import CrossQuery.Proofs.Dataset.Catalog

/-!
# Catalogs under new names

A dataset in which one field has another name is checked as before, and its catalog has the same
tables and fields under the same identifiers, with the new name for that field.
-/

set_option autoImplicit false

namespace CrossQuery

/-- A catalog with each of its fields changed. -/
def Catalog.mapFields (image : Field → Field) (catalog : Catalog) : Catalog :=
  { catalog with allFields := catalog.allFields.map image }

def CatalogBuilder.mapFields (image : Field → Field) (builder : CatalogBuilder) :
    CatalogBuilder :=
  { builder with catalog := builder.catalog.mapFields image }

def Dataset.Installation.mapFields (image : Field → Field) (state : Installation) :
    Installation :=
  { state with builder := state.builder.mapFields image }

/-- A field of a dataset that is no primary key, where it stands, and a new name for it: not that
of the identifier, and spelled apart from the names of the other fields of the table. -/
structure Renaming (dataset : Dataset) where
  before : List DatasetTable
  table : DatasetTable
  later : List DatasetTable
  tables : dataset.tables = before ++ table :: later
  left : List DatasetField
  field : DatasetField
  right : List DatasetField
  fields : table.fields = left ++ field :: right
  notKey : field.isPrimaryKey = false
  name : String
  notIdentifier : name ≠ "_id"
  apart : ∀ other ∈ left ++ right,
    Naming.upperCase.spell name ≠ Naming.upperCase.spell other.name

namespace Renaming

variable {dataset : Dataset} (change : Renaming dataset)

def newField : DatasetField :=
  { change.field with name := change.name }

def newTable : DatasetTable :=
  { change.table with fields := change.left ++ change.newField :: change.right }

def renamed : Dataset :=
  { dataset with tables := change.before ++ change.newTable :: change.later }

def tableId : Int :=
  change.before.length + 1

/-- Whether a field of the catalog is the one that has a new name. -/
def Concerns (field : Field) : Prop :=
  field.tableId = change.tableId ∧ field.position = change.left.length

instance (field : Field) : Decidable (change.Concerns field) :=
  inferInstanceAs (Decidable (_ ∧ _))

/-- A field of the catalog under the name that it has afterwards. -/
def rename (field : Field) : Field :=
  if change.Concerns field then { field with name := change.name } else field

variable {change} {field : Field}

theorem rename_of_not_concerns (untouched : ¬ change.Concerns field) :
    change.rename field = field :=
  if_neg untouched

theorem rename_of_concerns (concerned : change.Concerns field) :
    change.rename field = { field with name := change.name } :=
  if_pos concerned

@[simp] theorem rename_id : (change.rename field).id = field.id := by
  unfold rename
  split <;> rfl

@[simp] theorem rename_tableId : (change.rename field).tableId = field.tableId := by
  unfold rename
  split <;> rfl

@[simp] theorem rename_position : (change.rename field).position = field.position := by
  unfold rename
  split <;> rfl

@[simp] theorem rename_baseType : (change.rename field).baseType = field.baseType := by
  unfold rename
  split <;> rfl

@[simp] theorem rename_isPrimaryKey :
    (change.rename field).isPrimaryKey = field.isPrimaryKey := by
  unfold rename
  split <;> rfl

end Renaming

section Checks

variable {dataset : Dataset}

theorem Dataset.checkRows_eq_ok_iff {table : DatasetTable} :
    checkRows table = .ok () ↔ ∀ row ∈ table.rows, row.length = table.fields.length := by
  have none : (table.rows.zipIdx.find? fun entry => entry.1.length != table.fields.length) = none ↔
      ∀ row ∈ table.rows, row.length = table.fields.length := by
    rw [List.find?_eq_none]
    constructor
    · intro each row member
      obtain ⟨place, bound, rfl⟩ := List.mem_iff_getElem.mp member
      simpa using each (table.rows[place], place) (List.mem_zipIdx_iff_getElem?.mpr (by simp))
    · rintro each ⟨row, place⟩ member
      simpa using each row (List.fst_mem_of_mem_zipIdx member)
  rw [← none, checkRows]
  split
  · simp [*]
  · simp [*]

theorem Dataset.checkTarget_eq_ok_iff {table : DatasetTable} {field : DatasetField} :
    dataset.checkTarget table field = .ok () ↔
      ∀ target ∈ field.references, target ∈ dataset.tables.map DatasetTable.name := by
  unfold checkTarget
  cases field.references with
  | none => simp
  | some target =>
      have found : (dataset.tables.any fun other => other.name == target) = true ↔
          target ∈ dataset.tables.map DatasetTable.name := by
        simp
      simp only [Option.mem_def, Option.some.injEq, forall_eq', ← found]
      split
      · simp [*]
      · simp [*]

/-- A dataset passes the check whose rows are as wide as their tables and whose fields refer to
tables that are there. -/
theorem Dataset.check_eq_ok_iff :
    dataset.check = .ok () ↔ ∀ table ∈ dataset.tables,
      (∀ row ∈ table.rows, row.length = table.fields.length) ∧
        ∀ field ∈ table.fields, ∀ target ∈ field.references,
          target ∈ dataset.tables.map DatasetTable.name := by
  rw [check, Outcome.forM_eq_ok_iff]
  refine forall₂_congr fun table _ => ?_
  rw [Outcome.bind_eq_ok, ← checkRows_eq_ok_iff]
  simp only [Outcome.forM_eq_ok_iff, checkTarget_eq_ok_iff]
  exact ⟨fun ⟨_, rows, targets⟩ => ⟨rows, targets⟩, fun ⟨rows, targets⟩ => ⟨(), rows, targets⟩⟩

/-- The new name passes the check as the old one does. -/
theorem Renaming.check_renamed {change : Renaming dataset} (checked : dataset.check = .ok ()) :
    change.renamed.check = .ok () := by
  have names : change.renamed.tables.map DatasetTable.name =
      dataset.tables.map DatasetTable.name := by
    simp [renamed, change.tables, newTable]
  rw [Dataset.check_eq_ok_iff, change.tables, List.forall_mem_append,
    List.forall_mem_cons] at checked
  obtain ⟨earlier, ⟨rows, targets⟩, later⟩ := checked
  rw [Dataset.check_eq_ok_iff, names, change.tables]
  refine List.forall_mem_append.mpr ⟨earlier, List.forall_mem_cons.mpr ⟨⟨?_, ?_⟩, later⟩⟩
  · intro row member
    rw [rows row member, change.fields]
    simp [newTable]
  · rw [change.fields, List.forall_mem_append, List.forall_mem_cons] at targets
    exact List.forall_mem_append.mpr ⟨targets.1, List.forall_mem_cons.mpr targets.2⟩

end Checks

section Installation

open CatalogBuilder Dataset

variable {dataset : Dataset} {change : Renaming dataset} {state : Installation} {id : Int}

theorem addField_mapFields {builder : CatalogBuilder} (orderly : builder.Orderly)
    (positive : 1 ≤ id) (most : id ≤ builder.catalog.tables.length) {image : Field → Field}
    {spec newSpec : FieldSpec}
    (isImage : builder.addedField id newSpec = image (builder.addedField id spec)) :
    (builder.mapFields image).addField id newSpec =
      ((builder.addField id spec).1, (builder.addField id spec).2.mapFields image) := by
  have listed := orderly.listed id positive most
  have position : ((builder.catalog.tableFields.lookup id).getD []).length =
      (builder.catalog.fieldsOf id).length := by
    rw [listed, Option.getD_some, List.length_map]
  unfold addedField at isImage
  rw [← position] at isImage
  simp only [addField, mapFields, Catalog.mapFields, List.map_append, List.map_cons, List.map_nil,
    isImage]

/-- A table that is complete up to the field, at least: what is added from now on is another
field. -/
structure Renaming.Behind (change : Renaming dataset) (state : Installation) : Prop where
  orderly : state.builder.Orderly
  most : change.tableId ≤ state.builder.catalog.tables.length
  further : change.left.length < (state.builder.catalog.fieldsOf change.tableId).length

theorem Renaming.Behind.addField (behind : change.Behind state) (positive : 1 ≤ id)
    (most : id ≤ state.builder.catalog.tables.length) (field : DatasetField) :
    (state.mapFields change.rename).addField id field =
        (state.addField id field).mapFields change.rename ∧
      change.Behind (state.addField id field) ∧
      id ≤ (state.addField id field).builder.catalog.tables.length := by
  have untouched : ¬ change.Concerns (state.builder.addedField id (fieldSpec field)) := by
    rintro ⟨here, place⟩
    have further := behind.further
    rw [← show id = change.tableId from here] at further
    exact absurd (show (state.builder.catalog.fieldsOf id).length = _ from place)
      (Nat.ne_of_gt further)
  have added := addField_mapFields behind.orderly positive most
    (rename_of_not_concerns untouched).symm
  obtain ⟨orderly, tables, fields⟩ := foldl_addField positive [field] behind.orderly most
  rw [List.foldl_cons, List.foldl_nil] at orderly tables fields
  refine ⟨?_, ⟨orderly, tables ▸ behind.most, ?_⟩, tables ▸ most⟩
  · simp only [Installation.addField, Installation.mapFields, added]
  · have grown := congrArg List.length (fields change.tableId)
    simp only [List.length_map, List.length_append] at grown
    have further := behind.further
    omega

theorem Renaming.Behind.foldl_addField (behind : change.Behind state)
    (fields : List DatasetField) (positive : 1 ≤ id)
    (most : id ≤ state.builder.catalog.tables.length) :
    fields.foldl (Installation.addField id) (state.mapFields change.rename) =
        (fields.foldl (Installation.addField id) state).mapFields change.rename ∧
      change.Behind (fields.foldl (Installation.addField id) state) := by
  induction fields generalizing state with
  | nil => exact ⟨rfl, behind⟩
  | cons field rest ih =>
      obtain ⟨added, after, most⟩ := behind.addField positive most field
      rw [List.foldl_cons, List.foldl_cons, added]
      exact ih after most

/-- A state in which a table is there without fields. -/
def beginTable (state : Installation) (databaseId : Int) (name : String) : Installation :=
  { builder := (state.builder.addTable databaseId name).2
    tableIds := (name, state.builder.nextTable) :: state.tableIds
    pending := state.pending }

theorem addTable_eq (state : Installation) (databaseId : Int) (table : DatasetTable) :
    state.addTable databaseId table =
      table.fields.foldl (Installation.addField state.builder.nextTable)
        (beginTable state databaseId table.name) := rfl

theorem length_beginTable (state : Installation) (databaseId : Int) (name : String) :
    (beginTable state databaseId name).builder.catalog.tables.length =
      state.builder.catalog.tables.length + 1 := by
  simp [beginTable, CatalogBuilder.addTable]

theorem Renaming.Behind.addTable (behind : change.Behind state) (databaseId : Int)
    (table : DatasetTable) :
    (state.mapFields change.rename).addTable databaseId table =
        (state.addTable databaseId table).mapFields change.rename ∧
      change.Behind (state.addTable databaseId table) := by
  have next := behind.orderly.nextTable
  have length := length_beginTable state databaseId table.name
  have begun : change.Behind (beginTable state databaseId table.name) := by
    refine ⟨behind.orderly.addTable databaseId table.name, ?_, behind.further⟩
    have most := behind.most
    omega
  have positive : 1 ≤ state.builder.nextTable := by omega
  have most : state.builder.nextTable ≤
      (beginTable state databaseId table.name).builder.catalog.tables.length := by
    omega
  exact begun.foldl_addField _ positive most

theorem Renaming.Behind.foldl_addTable (behind : change.Behind state) (tables : List DatasetTable)
    (databaseId : Int) :
    tables.foldl (Installation.addTable databaseId) (state.mapFields change.rename) =
      (tables.foldl (Installation.addTable databaseId) state).mapFields change.rename := by
  induction tables generalizing state with
  | nil => rfl
  | cons table rest ih =>
      obtain ⟨added, after⟩ := behind.addTable databaseId table
      rw [List.foldl_cons, List.foldl_cons, added]
      exact ih after

/-- Setting the target of a field does not depend on names. -/
theorem setForeignKey_mapFields (builder : CatalogBuilder) (fieldId target : Int) :
    (builder.mapFields change.rename).setForeignKey fieldId target =
      (builder.setForeignKey fieldId target).mapFields change.rename := by
  have commutes : retarget fieldId target ∘ change.rename =
      change.rename ∘ retarget fieldId target := by
    funext field
    have sameConcern : change.Concerns (retarget fieldId target field) ↔ change.Concerns field := by
      unfold retarget
      split <;> rfl
    by_cases concerned : change.Concerns field
    · rw [Function.comp_apply, Function.comp_apply,
        Renaming.rename_of_concerns (sameConcern.mpr concerned),
        Renaming.rename_of_concerns concerned]
      unfold retarget
      split <;> rfl
    · rw [Function.comp_apply, Function.comp_apply,
        Renaming.rename_of_not_concerns (mt sameConcern.mp concerned),
        Renaming.rename_of_not_concerns concerned]
  have fields : (builder.catalog.allFields.map change.rename).map (retarget fieldId target) =
      (builder.catalog.allFields.map (retarget fieldId target)).map change.rename := by
    rw [List.map_map, List.map_map, commutes]
  exact congrArg (fun all : List Field =>
    { builder with catalog := { builder.catalog with allFields := all } }) fields

theorem finish_mapFields (state : Installation) :
    (state.mapFields change.rename).finish = state.finish.mapFields change.rename := by
  unfold Installation.finish Installation.mapFields
  dsimp only
  generalize state.pending = pending
  generalize state.builder = builder
  induction pending generalizing builder with
  | nil => rfl
  | cons entry rest ih =>
      rw [List.foldl_cons, List.foldl_cons, ← ih]
      congr 1
      split
      · exact setForeignKey_mapFields builder _ _
      · rfl

/-- The fields of a builder that stand before the one with a new name are left alone. -/
theorem mapFields_of_fewer {builder : CatalogBuilder} (orderly : builder.Orderly)
    (fewer : (builder.catalog.fieldsOf change.tableId).length ≤ change.left.length) :
    builder.mapFields change.rename = builder := by
  have untouched : builder.catalog.allFields.map change.rename = builder.catalog.allFields := by
    refine (List.map_congr_left fun field member => ?_).trans (List.map_id _)
    refine Renaming.rename_of_not_concerns ?_
    rintro ⟨here, place⟩
    have isOwn : field ∈ builder.catalog.fieldsOf change.tableId :=
      List.mem_filter.mpr ⟨member, beq_iff_eq.mpr here⟩
    have isPosition := List.mem_map_of_mem (f := Field.position) isOwn
    rw [orderly.positions, List.mem_range, place] at isPosition
    omega
  rw [mapFields, Catalog.mapFields, untouched]

/-- A table that is complete up to the field. -/
structure Renaming.Reached (change : Renaming dataset) (state : Installation) : Prop where
  orderly : state.builder.Orderly
  most : change.tableId ≤ state.builder.catalog.tables.length
  count : (state.builder.catalog.fieldsOf change.tableId).length = change.left.length

theorem Renaming.positive_tableId (change : Renaming dataset) : 1 ≤ change.tableId := by
  rw [tableId]
  omega

/-- Once the tables before are there, the fields before lead up to the field. -/
theorem Renaming.reached (installed : Installed dataset.databaseId change.before state.builder) :
    change.Reached (change.left.foldl (Installation.addField change.tableId)
      (beginTable state dataset.databaseId change.table.name)) := by
  have length := installed.length_tables
  have begunTables := length_beginTable state dataset.databaseId change.table.name
  have most : change.tableId ≤
      (beginTable state dataset.databaseId change.table.name).builder.catalog.tables.length := by
    rw [begunTables, tableId]
    omega
  obtain ⟨orderly, tables, fields⟩ := foldl_addField change.positive_tableId change.left
    (show (beginTable state dataset.databaseId change.table.name).builder.Orderly from
      installed.orderly.addTable _ _) most
  refine ⟨orderly, tables ▸ most, ?_⟩
  have beyond : (state.builder.catalog.tables.length : Int) < change.tableId := by
    rw [length, tableId]
    omega
  have noFields : (beginTable state dataset.databaseId change.table.name).builder.catalog.fieldsOf
      change.tableId = [] := installed.orderly.fieldsOf_of_lt beyond
  have counted := congrArg List.length (fields change.tableId)
  rw [noFields] at counted
  simpa using counted

/-- The field is added with the new name in place of the old one. -/
theorem Renaming.Reached.addField (reached : change.Reached state) :
    state.addField change.tableId change.newField =
        (state.addField change.tableId change.field).mapFields change.rename ∧
      change.Behind (state.addField change.tableId change.field) := by
  have concerned : change.Concerns
      (state.builder.addedField change.tableId (fieldSpec change.field)) :=
    ⟨rfl, reached.count⟩
  have isImage : state.builder.addedField change.tableId (fieldSpec change.newField) =
      change.rename (state.builder.addedField change.tableId (fieldSpec change.field)) := by
    rw [rename_of_concerns concerned]
    rfl
  have added := addField_mapFields reached.orderly change.positive_tableId reached.most isImage
  rw [mapFields_of_fewer reached.orderly (Nat.le_of_eq reached.count)] at added
  obtain ⟨after, tables, fields⟩ :=
    foldl_addField change.positive_tableId [change.field] reached.orderly reached.most
  rw [List.foldl_cons, List.foldl_nil] at after tables fields
  refine ⟨?_, after, tables ▸ reached.most, ?_⟩
  · have sameTarget : change.newField.references = change.field.references := rfl
    simp only [Installation.addField, Installation.mapFields, added, sameTarget]
  · have grown := congrArg List.length (fields change.tableId)
    rw [if_pos rfl] at grown
    simp only [List.length_map, List.length_append, List.length_cons, List.length_nil] at grown
    have count := reached.count
    omega

/-- The table of the field is added with the new name in place of the old one. -/
theorem Renaming.addTable_newTable
    (installed : Installed dataset.databaseId change.before state.builder) :
    state.addTable dataset.databaseId change.newTable =
        (state.addTable dataset.databaseId change.table).mapFields change.rename ∧
      change.Behind (state.addTable dataset.databaseId change.table) := by
  have next : state.builder.nextTable = change.tableId := by
    rw [installed.orderly.nextTable, installed.length_tables]
    rfl
  obtain ⟨own, behind⟩ := (change.reached installed).addField
  obtain ⟨rights, after⟩ :=
    behind.foldl_addField change.right change.positive_tableId behind.most
  have sameName : change.newTable.name = change.table.name := rfl
  rw [addTable_eq, addTable_eq, next, sameName, newTable, change.fields, List.foldl_append,
    List.foldl_append, List.foldl_cons, List.foldl_cons, own]
  exact ⟨rights, after⟩

/-- The catalog has the new name in place of the old one and is the same otherwise. -/
theorem Renaming.catalog_renamed :
    change.renamed.catalog = dataset.catalog.mapFields change.rename := by
  have empty : Installed dataset.databaseId [] CatalogBuilder.empty :=
    ⟨orderly_empty, rfl, fun place table found => by simp at found⟩
  let begun : Installation := ⟨.empty, [], []⟩
  have installed := installed_foldl change.before (show Installed _ [] begun.builder from empty)
  rw [List.nil_append] at installed
  obtain ⟨own, behind⟩ := change.addTable_newTable installed
  have others := behind.foldl_addTable change.later dataset.databaseId
  have states : change.renamed.tables.foldl (Installation.addTable dataset.databaseId) begun =
      (dataset.tables.foldl (Installation.addTable dataset.databaseId) begun).mapFields
        change.rename := by
    rw [renamed, change.tables, List.foldl_append, List.foldl_append, List.foldl_cons,
      List.foldl_cons, own, others]
  have finished := congrArg Installation.finish states
  rw [finish_mapFields] at finished
  exact congrArg CatalogBuilder.catalog finished

end Installation

section Lookups

variable {dataset : Dataset} {change : Renaming dataset} (catalog : Catalog) (id : Int)

namespace Renaming

theorem field?_mapFields :
    (catalog.mapFields change.rename).field? id = (catalog.field? id).map change.rename := by
  have sameId : (fun field : Field => field.id == id) ∘ change.rename = fun field => field.id == id := by
    funext field
    rw [Function.comp_apply, rename_id]
  rw [Catalog.field?, Catalog.mapFields, List.find?_map, sameId]
  rfl

theorem field_mapFields :
    (catalog.mapFields change.rename).field id = (catalog.field id).map change.rename := by
  rw [Catalog.field, Catalog.field, field?_mapFields]
  cases catalog.field? id <;> rfl

theorem fields_mapFields :
    (catalog.mapFields change.rename).fields id =
      (catalog.fields id).map (List.map change.rename) := by
  have listed : (catalog.mapFields change.rename).listedFields id =
      (catalog.listedFields id).map (List.map change.rename) := by
    unfold Catalog.listedFields
    have sameLists : (catalog.mapFields change.rename).tableFields = catalog.tableFields := rfl
    rw [sameLists]
    cases catalog.tableFields.lookup id with
    | none => rfl
    | some ids =>
        refine congrArg Except.ok ?_
        rw [List.map_filterMap]
        refine congrArg (fun find => ids.filterMap find) ?_
        funext fieldId
        exact field?_mapFields catalog fieldId
  rw [Catalog.fields, Catalog.fields, listed]
  cases catalog.listedFields id with
  | error missing => rfl
  | ok fields =>
      refine congrArg Except.ok (List.map_mergeSort fun left _ right _ => ?_).symm
      rw [rename_position, rename_position]

theorem primaryKey_mapFields :
    (catalog.mapFields change.rename).primaryKey id =
      (catalog.primaryKey id).map (Option.map change.rename) := by
  have sameKeys : Field.isPrimaryKey ∘ change.rename = Field.isPrimaryKey := by
    funext field
    exact rename_isPrimaryKey
  rw [Catalog.primaryKey, Catalog.primaryKey, fields_mapFields]
  cases catalog.fields id with
  | error missing => rfl
  | ok fields =>
      refine congrArg Except.ok (List.find?_map.trans ?_)
      rw [sameKeys]

end Renaming

end Lookups

end CrossQuery
