import CrossQuery.Proofs.Dataset.Records
import CrossQuery.Relational.Scope

/-!
# A table in both stores

The rows of a table and its documents come in pairs that hold the same record. A column stands in
the rows where its field stands in the table.
-/

set_option autoImplicit false

namespace CrossQuery

/-- The first column with a name stands where the column of the name does. -/
theorem Relational.Scope.position?_of_nodup {columns : List Column} {place : Nat} {column : Column}
    (distinct : (columns.map Column.name).Nodup) (isColumn : columns[place]? = some column) :
    position? column.name columns = some (column, place) := by
  have names : (columns.zipIdx.map fun entry => entry.1.name) = columns.map Column.name := by
    rw [← List.zipIdx_map_fst 0 columns, List.map_map]
    simp
  have member : (column, place) ∈ columns.zipIdx := by
    simpa [List.mk_mem_zipIdx_iff_getElem?] using isColumn
  let nameOf (entry : Column × Nat) : String := entry.1.name
  have namesDistinct : (columns.zipIdx.map nameOf).Nodup := names ▸ distinct
  exact find?_key_of_nodup namesDistinct member

/-- A column of the only table of a scope. -/
theorem Relational.Scope.resolve_of_nodup (name : String) {columns : List Column} {place : Nat}
    {column : Column} (distinct : (columns.map Column.name).Nodup)
    (isColumn : columns[place]? = some column) :
    Scope.resolve [⟨name, columns⟩] (some name) column.name = .ok (column, place) := by
  simp [resolve, candidates, covers, position?_of_nodup distinct isColumn]

namespace Dataset

/-- A dataset that both stores hold alike. -/
structure Regular (dataset : Dataset) : Prop where
  names : (dataset.tables.map fun table => Naming.upperCase.spell table.name).Nodup
  tables : ∀ table ∈ dataset.tables, table.Regular

theorem width_of_check {dataset : Dataset} (checked : dataset.check = .ok ())
    {table : DatasetTable} (isTable : table ∈ dataset.tables) :
    ∀ row ∈ table.rows, row.length = table.fields.length := by
  intro row member
  have passed := Outcome.forM_eq_ok_iff.mp checked table isTable
  obtain ⟨_, rows, _⟩ := Outcome.bind_eq_ok.mp passed
  unfold checkRows at rows
  split at rows
  · next noneWrong =>
      obtain ⟨place, below, isPlace⟩ := List.mem_iff_getElem.mp member
      have entry : (row, place) ∈ table.rows.zipIdx := by
        simp [List.mk_mem_zipIdx_iff_getElem?, below, isPlace]
      simpa using List.find?_eq_none.mp noneWrong _ entry
  · cases rows

end Dataset

/-- The cell of a field in a row of its table. -/
def cellAt (row : List Cell) (field : Field) : Cell :=
  row.getD field.position .null

/-- What both stores hold of a table of the catalog: rows and documents in pairs. -/
structure Shared (stores : EmbeddedStores) (source : Table) (fields : List Field)
    (columns : List Column) (records : List (List Cell × Collection.Document)) : Prop where
  rows : stores.database.table (Naming.upperCase.spell source.name) =
    .ok ⟨columns, records.map Prod.fst⟩
  documents : stores.documents.documents source.name = records.map Prod.snd
  resolved : ∀ field ∈ fields, ∃ column,
    Relational.Scope.resolve [⟨Naming.upperCase.spell source.name, columns⟩]
        (some (Naming.upperCase.spell source.name)) (Naming.upperCase.spell field.name) =
      .ok (column, field.position)
  plainKeys : ∀ field ∈ fields, Collection.PlainName (Naming.documentKeys.spellField field)
  distinctKeys : (fields.map Naming.documentKeys.spellField).Nodup
  distinctIds : (fields.map Field.id).Nodup
  admitted : ∀ record ∈ records, ∀ field ∈ fields,
    field.baseType.Admits (cellAt record.1 field)
  stored : ∀ record ∈ records, ∀ field ∈ fields,
    (cellAt record.1 field).Stored
      (Json.lookup? (Naming.documentKeys.spellField field) record.2)

/-- There is a record for each row of a table, with the absolute values of its columns of
integers. -/
structure Tallied (table : DatasetTable) (fields : List Field)
    (records : List (List Cell × Collection.Document)) : Prop where
  count : records.length = table.rows.length
  magnitude : ∀ field ∈ fields, field.baseType = .integer ∨ field.baseType = .bigInteger →
    (records.map fun record => (cellAt record.1 field).magnitude).sum =
      table.magnitude field.position

theorem plainName_id : Collection.PlainName "_id" :=
  ⟨by decide, by decide⟩

namespace Dataset

variable {dataset : Dataset} {source : Table} {table : DatasetTable} {fields : List Field}

/-- A field of the catalog stands at its position among the fields of the dataset. -/
theorem Describes.atPosition (described : dataset.Describes source table fields) {field : Field}
    (member : field ∈ fields) :
    ∃ original, table.fields[field.position]? = some original ∧
      original.traits = field.traits := by
  obtain ⟨place, below, rfl⟩ := List.mem_iff_getElem.mp member
  have position := congrArg (·[place]?) described.positions
  have traits := congrArg (·[place]?) described.traits
  simp only [List.getElem?_map, List.getElem?_eq_getElem below, Option.map_some,
    List.getElem?_range below, Option.some.injEq] at position traits
  obtain ⟨original, isOriginal, sameTraits⟩ := Option.map_eq_some_iff.mp traits.symm
  rw [position]
  exact ⟨original, isOriginal, sameTraits⟩

/-- The name in documents of a field with the given traits. -/
def keyOfTraits (traits : Traits) : String :=
  if traits.2.2 == some .id then "_id" else traits.1

theorem keyOfTraits_original (original : DatasetField) :
    keyOfTraits original.traits = original.documentKey := rfl

theorem keyOfTraits_field (field : Field) :
    keyOfTraits field.traits = Naming.documentKeys.spellField field := by
  show (if field.isPrimaryKey = true then "_id" else field.name) =
    if Naming.documentKeys = .documentKeys ∧ field.isPrimaryKey = true then "_id" else field.name
  simp only [true_and]

theorem embed_eq_ok {stores : EmbeddedStores} (embedded : dataset.embed = .ok stores) :
    stores.catalog = dataset.catalog ∧ dataset.database .upperCase = .ok stores.database ∧
      stores.documents = dataset.documents := by
  obtain ⟨database, built, filled⟩ := Outcome.bind_eq_ok.mp embedded
  obtain rfl := Except.ok.inj filled
  exact ⟨rfl, built, rfl⟩

theorem nodup_tableNames
    (spelled : (dataset.tables.map fun table => Naming.upperCase.spell table.name).Nodup) :
    (dataset.tables.map DatasetTable.name).Nodup := by
  rw [show (fun table : DatasetTable => Naming.upperCase.spell table.name) =
    Naming.upperCase.spell ∘ DatasetTable.name from rfl, ← List.map_map] at spelled
  exact List.Pairwise.of_map _ (fun _ _ differ same => differ (congrArg _ same)) spelled

/-- A row of cells and a document that were made of the same row. -/
theorem Describes.cell_and_document (described : dataset.Describes source table fields)
    (regular : table.Regular) (widths : ∀ row ∈ table.rows, row.length = table.fields.length)
    {rows : List (List Cell)} (converted : table.rows.mapM table.cells = .ok rows)
    {record : List Cell × Collection.Document}
    (isRecord : record ∈ rows.zip (table.rows.map table.document)) {field : Field}
    (isField : field ∈ fields) :
    field.baseType.Admits (cellAt record.1 field) ∧
      (cellAt record.1 field).Stored
        (Json.lookup? (Naming.documentKeys.spellField field) record.2) := by
  obtain ⟨row, isRow, cells, document⟩ := table.exists_row_of_record converted isRecord
  obtain ⟨original, isOriginal, sameTraits⟩ := described.atPosition isField
  have found := regular.cell_and_document isRow (widths row isRow) cells isOriginal
  have type : original.baseType = field.baseType := congrArg (·.2.1) sameTraits
  rw [← keyOfTraits_original, sameTraits, keyOfTraits_field, type] at found
  rw [document]
  exact found

theorem Describes.resolve_column (described : dataset.Describes source table fields)
    (names : (table.fields.map fun field => Naming.upperCase.spell field.name).Nodup)
    {field : Field} (isField : field ∈ fields) (name : String) :
    ∃ column, Relational.Scope.resolve [⟨name, table.columns .upperCase⟩] (some name)
        (Naming.upperCase.spell field.name) = .ok (column, field.position) := by
  obtain ⟨original, isOriginal, sameTraits⟩ := described.atPosition isField
  have sameName : original.name = field.name := congrArg Prod.fst sameTraits
  have isColumn : (table.columns .upperCase)[field.position]? =
      some ⟨Naming.upperCase.spell field.name, original.storageType.name⟩ := by
    rw [DatasetTable.columns, List.getElem?_map, isOriginal, ← sameName]
    rfl
  have distinct : ((table.columns .upperCase).map Column.name).Nodup := by
    rw [DatasetTable.columns, List.map_map]
    exact names
  have resolved := Relational.Scope.resolve_of_nodup name distinct isColumn
  exact ⟨_, resolved⟩

theorem Describes.plainKey (described : dataset.Describes source table fields)
    (plain : ∀ field ∈ table.fields, Collection.PlainName field.name) {field : Field}
    (isField : field ∈ fields) :
    Collection.PlainName (Naming.documentKeys.spellField field) := by
  obtain ⟨original, isOriginal, sameTraits⟩ := described.atPosition isField
  rw [← keyOfTraits_field, ← sameTraits, keyOfTraits_original]
  unfold DatasetField.documentKey
  split
  · exact plainName_id
  · exact plain original (List.mem_of_getElem? isOriginal)

theorem Describes.keys_eq (described : dataset.Describes source table fields) :
    fields.map Naming.documentKeys.spellField = table.fields.map DatasetField.documentKey := by
  have mapped := congrArg (List.map keyOfTraits) described.traits
  rw [List.map_map, List.map_map] at mapped
  rw [← funext keyOfTraits_field]
  exact mapped

/-- Both stores that are filled with a regular dataset hold each of its tables. -/
theorem exists_shared (checked : dataset.check = .ok ()) (regular : dataset.Regular)
    {stores : EmbeddedStores} (embedded : dataset.embed = .ok stores)
    (described : dataset.Describes source table fields) :
    ∃ columns records, Shared stores source fields columns records ∧
      Tallied table fields records := by
  obtain ⟨-, built, sameDocuments⟩ := embed_eq_ok embedded
  have isTable := described.isTable
  have tableRegular := regular.tables table isTable
  have widths := width_of_check checked isTable
  obtain ⟨rows, converted, isStored⟩ := table_database regular.names built isTable
  have sameLength : table.rows.length = rows.length := by
    simpa using congrArg List.length (Outcome.mapM_eq_ok_iff.mp converted)
  have areRows : (rows.zip (table.rows.map table.document)).map Prod.fst = rows :=
    List.map_fst_zip (by rw [List.length_map]; omega)
  have areDocuments : (rows.zip (table.rows.map table.document)).map Prod.snd =
      table.rows.map table.document :=
    List.map_snd_zip (by rw [List.length_map]; omega)
  refine ⟨table.columns .upperCase, rows.zip (table.rows.map table.document), ?_, ?_⟩
  · exact
      { rows := by rw [described.name, isStored, areRows]
        documents := by
          rw [described.name, sameDocuments, documents_eq (nodup_tableNames regular.names) isTable,
            areDocuments]
        resolved := fun field isField => described.resolve_column tableRegular.names isField _
        plainKeys := fun field isField =>
          described.plainKey (fun original member => (tableRegular.fields original member).plain)
            isField
        distinctKeys := by
          rw [described.keys_eq]
          exact tableRegular.documentKeys
        distinctIds := described.distinctIds
        admitted := fun record isRecord field isField =>
          (described.cell_and_document tableRegular widths converted isRecord isField).1
        stored := fun record isRecord field isField =>
          (described.cell_and_document tableRegular widths converted isRecord isField).2 }
  · refine ⟨by rw [← List.length_map Prod.fst, areRows, sameLength], ?_⟩
    intro field isField isInteger
    obtain ⟨original, isOriginal, sameTraits⟩ := described.atPosition isField
    have type : original.baseType = field.baseType := congrArg (·.2.1) sameTraits
    rw [← DatasetTable.magnitude_eq widths converted isOriginal (type ▸ isInteger)]
    rw [← congrArg (List.map fun row => (row.getD field.position .null).magnitude) areRows,
      List.map_map]
    rfl

end Dataset

end CrossQuery
