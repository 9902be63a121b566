import CrossQuery.Proofs.Catalog.Built
import CrossQuery.Proofs.Cell.Content
import CrossQuery.Proofs.Collection.Stages
import CrossQuery.Proofs.Dataset.Shared
import Mathlib.Data.List.Nodup

/-!
# Tables with a primary key

The values of a primary key tell the rows of a table apart. Both stores hold them as integers, a
database in the column of the key and a store of documents under the name of identifiers.
-/

set_option autoImplicit false

namespace CrossQuery

open Collection

/-- A table whose fields have names of their own in upper case, none of which documents read as a
path, an operator or their identifier. -/
structure DatasetTable.PlainlyNamed (table : DatasetTable) : Prop where
  apart : (table.fields.map fun field => Naming.upperCase.spell field.name).Nodup
  plain : ∀ field ∈ table.fields, PlainName field.name
  notId : ∀ field ∈ table.fields, field.name ≠ "_id"

/-- A table with a primary key whose values are there and differ from row to row. -/
structure DatasetTable.Keyed (table : DatasetTable) : Prop where
  hasKey : ∃ field ∈ table.fields, field.isPrimaryKey = true
  present : ∀ (place : Nat) (field : DatasetField), table.fields[place]? = some field →
    field.isPrimaryKey = true → ∀ row ∈ table.rows, row.getD place .null ≠ .null
  apart : ∀ (place : Nat) (field : DatasetField), table.fields[place]? = some field →
    field.isPrimaryKey = true → (table.rows.map fun row => row.getD place .null).Nodup

namespace Dataset

open CatalogBuilder

variable {dataset : Dataset} {source : Table} {table : DatasetTable} {fields : List Field}

theorem built_addField {state : Installation} (built : state.builder.Built) (tableId : Int)
    (field : DatasetField) : (state.addField tableId field).builder.Built := by
  rw [builder_addField]
  exact built.addField tableId (fieldSpec field)

theorem built_addTable {state : Installation} (built : state.builder.Built) (databaseId : Int)
    (table : DatasetTable) : (state.addTable databaseId table).builder.Built := by
  unfold Installation.addTable
  exact List.foldlRecOn (motive := fun state : Installation => state.builder.Built) table.fields _
    (built.addTable databaseId table.name) fun _ isBuilt field _ => built_addField isBuilt _ field

/-- The catalog of a dataset is built like any other. -/
theorem built_install (dataset : Dataset) : (dataset.install .empty).Built := by
  unfold install Installation.finish
  refine List.foldlRecOn _ _ ?_ fun builder isBuilt entry _ => ?_
  · exact List.foldlRecOn (motive := fun state : Installation => state.builder.Built)
      dataset.tables _ Built.empty
      fun _ isBuilt table _ => built_addTable isBuilt dataset.databaseId table
  · dsimp only
    split
    · exact isBuilt.setForeignKey _ _
    · exact isBuilt

/-- A catalog lists the fields of a dataset with the tables that they were added to. -/
theorem listsOwn_catalog (dataset : Dataset) : dataset.catalog.ListsOwn :=
  dataset.built_install.listsOwn

/-- The catalog knows the primary key of a table that has one. -/
theorem Describes.exists_primaryKey (described : dataset.Describes source table fields)
    (hasKey : ∃ field ∈ table.fields, field.isPrimaryKey = true) :
    ∃ key ∈ fields, dataset.catalog.primaryKey source.id = .ok (some key) ∧
      key.isPrimaryKey = true := by
  obtain ⟨original, isOriginal, isKey⟩ := hasKey
  have isTraits : original.traits ∈ fields.map Field.traits :=
    described.traits ▸ List.mem_map_of_mem isOriginal
  obtain ⟨field, isField, sameTraits⟩ := List.mem_map.mp isTraits
  have sameSpecial : field.specialType = original.specialType := congrArg (·.2.2) sameTraits
  have someKey : (fields.find? Field.isPrimaryKey).isSome = true := by
    rw [List.find?_isSome]
    exact ⟨field, isField, by rw [Field.isPrimaryKey, sameSpecial]; exact isKey⟩
  obtain ⟨key, found⟩ := Option.isSome_iff_exists.mp someKey
  refine ⟨key, List.mem_of_find?_eq_some found, ?_, List.find?_some found⟩
  rw [Catalog.primaryKey, described.listed]
  exact congrArg Except.ok found

end Dataset

namespace DatasetField

variable {field : DatasetField} {value : Json} {cell : Cell}

/-- The value of a primary key is an integer. -/
theorem cell_of_key (isKey : field.isPrimaryKey = true) (present : value ≠ .null)
    (held : field.cell value = .ok cell) :
    ∃ number, value = .whole number ∧ Cell.fitsInt64 number = true ∧
      cell.integer? = some number := by
  have isWide : field.storageType = .bigint := by rw [storageType, if_pos isKey]
  have notNull : value.isNull = false := by
    cases value with
    | null => exact absurd rfl present
    | _ => rfl
  rw [DatasetField.cell, notNull] at held
  exact presentCell_of_integer (.inl isWide) held

theorem documentValue_of_whole {number : Int} (isKey : field.isPrimaryKey = true)
    (fits : Cell.fitsInt64 number = true) :
    field.documentValue (.whole number) = .whole number := by
  have isWide : field.storageType = .bigint := by rw [storageType, if_pos isKey]
  have held : field.cell (.whole number) = .ok (.int64 (Int64.ofInt number)) := by
    simp [DatasetField.cell, Json.isNull, presentCell, isWide, fits]
  unfold documentValue
  split
  · rw [held]
    have bounds : -(2 ^ 63) ≤ number ∧ number < 2 ^ 63 := by simpa [Cell.fitsInt64] using fits
    exact congrArg Json.whole (Int64.toInt_ofInt_of_le bounds.1 bounds.2)
  · rfl

end DatasetField

namespace DatasetTable

variable {table : DatasetTable} {place : Nat} {field : DatasetField} {row : List Json}
  {cells : List Cell}

/-- Rows with the same value of a primary key are the same. -/
theorem Keyed.eq_of_value (keyed : table.Keyed) (isField : table.fields[place]? = some field)
    (isKey : field.isPrimaryKey = true) {other : List Json} (isRow : row ∈ table.rows)
    (isOther : other ∈ table.rows) (same : row.getD place .null = other.getD place .null) :
    row = other :=
  List.inj_on_of_nodup_map (keyed.apart place field isField isKey) isRow isOther same

/-- A row holds an integer in the column of a primary key. -/
theorem Keyed.integer_of_cells (keyed : table.Keyed) (isField : table.fields[place]? = some field)
    (isKey : field.isPrimaryKey = true) (isRow : row ∈ table.rows)
    (held : table.cells row = .ok cells) :
    ∃ number, row[place]? = some (.whole number) ∧ Cell.fitsInt64 number = true ∧
      (cells.getD place .null).integer? = some number := by
  have present := keyed.present place field isField isKey row isRow
  have inRow : place < row.length := by
    by_contra beyond
    exact present (by simp [List.getD_eq_getElem?_getD, Nat.le_of_not_lt beyond])
  obtain ⟨value, isValue, _, isCell⟩ := exists_value held isField inRow
  rw [List.getD_eq_getElem?_getD, isValue] at present
  obtain ⟨number, rfl, fits, isNumber⟩ := DatasetField.cell_of_key isKey present isCell
  exact ⟨number, isValue, fits, isNumber⟩

/-- Documents keep the value of the last primary key of a table as their identifier. -/
theorem exists_identifier (hasKey : ∃ field ∈ table.fields, field.isPrimaryKey = true)
    (notId : ∀ field ∈ table.fields, field.name ≠ "_id") :
    ∃ (place : Nat) (field : DatasetField), table.fields[place]? = some field ∧
      field.isPrimaryKey = true ∧ ∀ (row : List Json) (value : Json),
        row[place]? = some value → value.isNull = false →
        Json.lookup? "_id" (table.document row) = some (field.documentValue value) := by
  have someKey : (table.fields.reverse.find? DatasetField.isPrimaryKey).isSome = true := by
    rw [List.find?_isSome]
    obtain ⟨field, member, isKey⟩ := hasKey
    exact ⟨field, List.mem_reverse.mpr member, isKey⟩
  obtain ⟨field, found⟩ := Option.isSome_iff_exists.mp someKey
  obtain ⟨isKey, later, earlier, split, noKey⟩ := List.find?_eq_some_iff_append.mp found
  have areFields : table.fields = earlier.reverse ++ field :: later.reverse := by
    simpa using congrArg List.reverse split
  have isField : table.fields[earlier.reverse.length]? = some field := by
    rw [areFields, List.getElem?_append_right (Nat.le_refl _), Nat.sub_self]
    rfl
  refine ⟨earlier.reverse.length, field, isField, isKey, ?_⟩
  intro row value isValue notNull
  obtain ⟨inRow, isValue⟩ := List.getElem?_eq_some_iff.mp isValue
  have areValues : row = row.take earlier.reverse.length ++
      value :: row.drop (earlier.reverse.length + 1) := by
    rw [← isValue, ← List.drop_eq_getElem_cons inRow, List.take_append_drop]
  have sameLength : earlier.reverse.length = (row.take earlier.reverse.length).length := by
    rw [List.length_take, Nat.min_eq_left (Nat.le_of_lt inRow)]
  have isIdentifier : field.documentKey = "_id" := by rw [DatasetField.documentKey, if_pos isKey]
  have laterKeys : "_id" ∉ (later.reverse.zip (row.drop (earlier.reverse.length + 1))).map
      fun entry => entry.1.documentKey := by
    intro member
    obtain ⟨entry, isEntry, same⟩ := List.mem_map.mp member
    have isLater : entry.1 ∈ later.reverse := (List.of_mem_zip isEntry).1
    have notKey : entry.1.isPrimaryKey = false := by
      simpa using noKey entry.1 (List.mem_reverse.mp isLater)
    rw [DatasetField.documentKey, notKey] at same
    refine notId entry.1 ?_ same
    rw [areFields]
    exact List.mem_append_right _ (List.mem_cons_of_mem _ isLater)
  rw [document_eq_foldl, areFields, areValues, List.zip_append sameLength, List.foldl_append,
    List.zip_cons_cons, List.foldl_cons, lookup?_foldl_of_not_mem laterKeys, extend, notNull,
    isIdentifier]
  exact Json.lookup?_assign_self _ _ _

end DatasetTable

/-- Cells that hold an integer of each item and tell the items apart. -/
structure Identifies {α : Type} (cellOf : α → Cell) (items : List α) : Prop where
  integers : ∀ item ∈ items, Kind.integer.Holds (cellOf item)
  apart : ∀ left ∈ items, ∀ right ∈ items,
    (cellOf left).content? = (cellOf right).content? → left = right

namespace DatasetTable

variable {table : DatasetTable} {place : Nat} {field : DatasetField}

/-- What is made of rows is told apart by cells that hold the integers of a primary key. -/
theorem Keyed.identifies (keyed : table.Keyed) (isField : table.fields[place]? = some field)
    (isKey : field.isPrimaryKey = true) {α : Type} {cellOf : α → Cell} {items : List α}
    {made : List Json → α → Prop}
    (determined : ∀ row left right, made row left → made row right → left = right)
    (held : ∀ item ∈ items, ∃ row ∈ table.rows, made row item ∧
      ∃ number, row[place]? = some (.whole number) ∧ (cellOf item).integer? = some number) :
    Identifies cellOf items := by
  constructor
  · intro item member
    obtain ⟨row, _, _, number, _, isNumber⟩ := held item member
    exact .content (Cell.content?_of_integer? isNumber) rfl
  · intro left isLeft right isRight same
    obtain ⟨row, isRow, madeLeft, number, isValue, isNumber⟩ := held left isLeft
    obtain ⟨other, isOther, madeRight, otherNumber, isOtherValue, isOtherNumber⟩ :=
      held right isRight
    rw [Cell.content?_of_integer? isNumber, Cell.content?_of_integer? isOtherNumber] at same
    obtain rfl := Content.integer.inj (Option.some.inj same)
    have sameValue : row.getD place .null = other.getD place .null := by
      rw [List.getD_eq_getElem?_getD, List.getD_eq_getElem?_getD, isValue, isOtherValue]
    obtain rfl := keyed.eq_of_value isField isKey isRow isOther sameValue
    exact determined row left right madeLeft madeRight

end DatasetTable

namespace Dataset

variable {dataset : Dataset} {source : Table} {table : DatasetTable} {fields : List Field}
  {rows : List (List Cell)}

/-- The column of the primary key tells the rows of a table apart. -/
theorem Describes.identifies_rows (described : dataset.Describes source table fields)
    (keyed : table.Keyed) (fits : table.rows.mapM table.cells = .ok rows) {key : Field}
    (isField : key ∈ fields) (isKey : key.isPrimaryKey = true) :
    Identifies (cellAt · key) rows := by
  obtain ⟨original, isOriginal, sameTraits⟩ := described.atPosition isField
  have sameSpecial : original.specialType = key.specialType := congrArg (·.2.2) sameTraits
  have isPrimary : original.isPrimaryKey = true := by
    rw [DatasetField.isPrimaryKey, sameSpecial]
    exact isKey
  have determined : ∀ (row : List Json) (left right : List Cell), table.cells row = .ok left →
      table.cells row = .ok right → left = right :=
    fun row left right isLeft isRight => Except.ok.inj (isLeft.symm.trans isRight)
  refine keyed.identifies isOriginal isPrimary determined ?_
  intro cells member
  obtain ⟨row, isRow, held⟩ := Outcome.exists_of_mem_mapM fits member
  obtain ⟨number, isValue, _, isNumber⟩ := keyed.integer_of_cells isOriginal isPrimary isRow held
  exact ⟨row, isRow, held, number, isValue, isNumber⟩

end Dataset

/-- The identifiers of documents tell them apart. -/
theorem DatasetTable.Keyed.identifies_documents {table : DatasetTable} (keyed : table.Keyed)
    (named : table.PlainlyNamed) {rows : List (List Cell)}
    (fits : table.rows.mapM table.cells = .ok rows) :
    Identifies (valueAt · "_id") (table.rows.map table.document) := by
  obtain ⟨place, field, isField, isKey, identifier⟩ :=
    DatasetTable.exists_identifier keyed.hasKey named.notId
  have determined : ∀ (row : List Json) (left right : Document), left = table.document row →
      right = table.document row → left = right :=
    fun row left right isLeft isRight => isLeft.trans isRight.symm
  refine keyed.identifies isField isKey determined ?_
  intro document member
  obtain ⟨row, isRow, rfl⟩ := List.mem_map.mp member
  obtain ⟨cells, held⟩ := Outcome.exists_of_mapM fits isRow
  obtain ⟨number, isValue, fitsWide, _⟩ := keyed.integer_of_cells isField isKey isRow held
  refine ⟨row, isRow, rfl, number, isValue, ?_⟩
  rw [valueAt, atPath?_of_plain plainName_id, identifier row _ isValue rfl,
    DatasetField.documentValue_of_whole isKey fitsWide]
  exact Cell.integer?_ofJson_whole fitsWide

end CrossQuery
