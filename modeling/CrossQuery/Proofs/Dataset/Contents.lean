import Mathlib
import CrossQuery.Proofs.Dataset.Shared

/-!
# What both stores hold of a value

A value of a dataset is found in the table of its field and in the document of its row, in both as
the same JSON: as it stands in the dataset, with days and moments in their one spelling. A database
holds the last of the tables that are spelled alike and finds the first of their columns that are,
while documents of one collection are kept together and the value of one key is the last; and a
cell holds no whole number that is wider than 64 bits. Apart from that every value is there.
-/

set_option autoImplicit false

namespace CrossQuery

/-- A text in the one spelling of the day or moment that it is read as. -/
def BaseType.canonicalText (type : BaseType) (text : String) : String :=
  match type with
  | .date =>
    ((Calendar.readDate? text.toList).map fun date => String.ofList date.write).getD text
  | .timestamp =>
    ((Calendar.readTimestamp? text.toList).map fun moment => String.ofList moment.write).getD text
  | _ => text

/-- A value of a field with days and moments in their one spelling. -/
def DatasetField.canonical (field : DatasetField) : Json → Json
  | .string text => .string (field.baseType.canonicalText text)
  | value => value

/-- A value whose whole numbers fit 64 bits with sign. What lies in objects is kept as it is. -/
inductive Json.Narrow : Json → Prop where
  | null : Narrow .null
  | bool {value : Bool} : Narrow (.bool value)
  | whole {value : Int} : Cell.fitsInt64 value = true → Narrow (.whole value)
  | real {value : Float} : Narrow (.real value)
  | string {text : String} : Narrow (.string text)
  | array {items : List Json} : (∀ item ∈ items, Narrow item) → Narrow (.array items)
  | object {entries : List (String × Json)} : Narrow (.object entries)

/-- The cell of a row in the first column with a name. -/
def Rowset.cell? (rowset : Rowset) (name : String) (row : Nat) : Option Cell :=
  match Relational.Scope.position? name rowset.columns, rowset.rows[row]? with
  | some (_, place), some cells => cells[place]?
  | _, _ => none

section Values

/-- The text of an array is made of the texts of its items. -/
theorem Json.writeItems_congr {items others : List Json}
    (same : items.map Json.writeCompact = others.map Json.writeCompact) :
    Json.writeItems items = Json.writeItems others := by
  induction items generalizing others with
  | nil =>
      obtain rfl := List.map_eq_nil_iff.mp same.symm
      rfl
  | cons item rest ih =>
      obtain ⟨other, more, rfl, first, later⟩ := List.map_eq_cons_iff.mp same.symm
      have tails := ih later.symm
      cases rest with
      | nil =>
          obtain rfl := List.map_eq_nil_iff.mp later
          exact first.symm
      | cons _ _ =>
          cases more with
          | nil => cases later
          | cons _ _ =>
              simp only [Json.writeItems] at tails ⊢
              rw [first, tails]

theorem Cell.toJsonItems_ofJsonItems (items : List Json) :
    Cell.toJsonItems (Cell.ofJsonItems items) = items.map fun item => (Cell.ofJson item).toJson := by
  induction items with
  | nil => rfl
  | cons item rest ih => rw [Cell.ofJsonItems, Cell.toJsonItems, ih, List.map_cons]

theorem Cell.toJson_int64 {number : Int} (fits : Cell.fitsInt64 number = true) :
    (Cell.int64 (Int64.ofInt number)).toJson = .whole number := by
  have bounds : -(2 ^ 63) ≤ number ∧ number < 2 ^ 63 := by
    simpa [Cell.fitsInt64] using fits
  exact congrArg Json.whole (Int64.toInt_ofInt_of_le bounds.1 bounds.2)

theorem Cell.toJson_int32 {number : Int} (fits : Cell.fitsInt32 number = true) :
    (Cell.int32 (Int32.ofInt number)).toJson = .whole number := by
  have bounds : -(2 ^ 31) ≤ number ∧ number < 2 ^ 31 := by
    simpa [Cell.fitsInt32] using fits
  exact congrArg Json.whole (Int32.toInt_ofInt_of_le bounds.1 bounds.2)

/-- A float is written as the cell that holds it is. -/
theorem Cell.writeCompact_realJson (value : Float) :
    (Cell.realJson value).writeCompact = Json.writeReal value := by
  unfold Cell.realJson Json.writeReal
  cases kind : Decimal.Binary.ofFloat value with
  | finite negative magnitude => simp only [Json.writeCompact, Json.writeReal, kind]
  | _ => simp only [Json.writeCompact]

/-- A narrow value is written as its cell is. -/
theorem Json.Narrow.writeCompact_ofJson {value : Json} (narrow : value.Narrow) :
    (Cell.ofJson value).toJson.writeCompact = value.writeCompact := by
  induction narrow with
  | null => rfl
  | bool => rfl
  | whole fits =>
      rw [Cell.ofJson, if_pos fits, Cell.toJson_int64 fits]
  | real => simp only [Cell.ofJson, Cell.toJson, Json.writeCompact, Cell.writeCompact_realJson]
  | string => rfl
  | @array items _ ih =>
      simp only [Cell.ofJson, Cell.toJson, Json.writeCompact, Cell.toJsonItems_ofJsonItems]
      have same : (items.map fun item => (Cell.ofJson item).toJson).map Json.writeCompact =
          items.map Json.writeCompact := by
        simpa using ih
      rw [Json.writeItems_congr same]
  | object => rfl

namespace DatasetField

variable {field : DatasetField} {value : Json} {cell : Cell}

/-- A value that is not a text is not spelled in another way. -/
theorem canonical_of_type (notDate : field.baseType ≠ .date)
    (notTimestamp : field.baseType ≠ .timestamp) : field.canonical value = value := by
  cases value with
  | string text =>
      refine congrArg Json.string ?_
      unfold BaseType.canonicalText
      split
      · next isDate => exact absurd isDate notDate
      · next isTimestamp => exact absurd isTimestamp notTimestamp
      · rfl
  | _ => rfl

theorem baseType_of_date (type : field.storageType = .date) : field.baseType = .date := by
  cases isKey : field.isPrimaryKey <;> cases base : field.baseType <;>
    simp [storageType, isKey, base] at type ⊢

theorem baseType_of_timestamp (type : field.storageType = .timestamp) :
    field.baseType = .timestamp := by
  cases isKey : field.isPrimaryKey <;> cases base : field.baseType <;>
    simp [storageType, isKey, base] at type ⊢

theorem storageType_of_temporal (temporal : field.isTemporal = true) :
    field.storageType = .bigint ∨ field.storageType = .date ∨ field.storageType = .timestamp := by
  cases isKey : field.isPrimaryKey <;> cases base : field.baseType <;>
    simp [isTemporal, storageType, isKey, base] at temporal ⊢

theorem not_temporal_of_varchar (type : field.storageType = .varchar) :
    field.baseType ≠ .date ∧ field.baseType ≠ .timestamp := by
  cases isKey : field.isPrimaryKey <;> cases base : field.baseType <;>
    simp [storageType, isKey, base] at type ⊢

theorem storageType_ne_fraction (notFloat : field.baseType ≠ .float)
    (notDecimal : field.baseType ≠ .decimal) :
    field.storageType ≠ .double ∧ field.storageType ≠ .decimal := by
  cases isKey : field.isPrimaryKey <;> cases base : field.baseType <;>
    simp [storageType, isKey, base] at notFloat notDecimal ⊢

/-- The column of a field that is neither of numbers with fractions nor of texts holds each value
in the canonical spelling. -/
theorem toJson_of_presentCell (held : field.presentCell value = .ok cell)
    (notVarchar : field.storageType ≠ .varchar) (notDouble : field.storageType ≠ .double)
    (notDecimal : field.storageType ≠ .decimal) : cell.toJson = field.canonical value := by
  unfold presentCell at held
  split at held
  · next number _ =>
      split at held
      · next fits =>
          cases held
          exact Cell.toJson_int64 fits
      · cases held
  · next number _ =>
      split at held
      · next fits =>
          cases held
          exact Cell.toJson_int32 fits
      · cases held
  · next type => exact absurd type notDouble
  · next type => exact absurd type notDecimal
  · cases held
    rfl
  · next text type =>
      unfold dateCell at held
      split at held
      · next date isDate =>
          cases held
          simp [canonical, BaseType.canonicalText, baseType_of_date type, isDate, Cell.toJson]
      · cases held
  · next text type =>
      unfold timestampCell at held
      split at held
      · next moment isMoment =>
          cases held
          simp [canonical, BaseType.canonicalText, baseType_of_timestamp type, isMoment,
            Cell.toJson]
      · cases held
  · next type => exact absurd type notVarchar
  · cases held

/-- A column of texts holds each value that is narrow as it is. -/
theorem compact_of_varchar (type : field.storageType = .varchar)
    (held : field.presentCell value = .ok cell) (narrow : value.Narrow) :
    cell.toJson.compact = value.compact := by
  unfold presentCell at held
  rw [type] at held
  cases held
  exact congrArg String.ofList narrow.writeCompact_ofJson

/-- The cell of a value is written as the value in its canonical spelling. -/
theorem compact_of_cell (held : field.cell value = .ok cell) (notFloat : field.baseType ≠ .float)
    (notDecimal : field.baseType ≠ .decimal)
    (narrow : field.storageType = .varchar → value.Narrow) :
    cell.toJson.compact = (field.canonical value).compact := by
  obtain ⟨noDouble, noDecimal⟩ := storageType_ne_fraction notFloat notDecimal
  unfold DatasetField.cell at held
  split at held
  · next isNull =>
      cases held
      cases value with
      | null => rfl
      | _ => cases isNull
  · by_cases type : field.storageType = .varchar
    · obtain ⟨notDate, notTimestamp⟩ := not_temporal_of_varchar type
      rw [canonical_of_type notDate notTimestamp]
      exact compact_of_varchar type held (narrow type)
    · rw [toJson_of_presentCell held type noDouble noDecimal]

/-- The document of a row holds a value in its canonical spelling, and leaves out null. -/
theorem documentEntry_eq_canonical (held : field.cell value = .ok cell) :
    (field.documentEntry value).getD .null = field.canonical value := by
  unfold documentEntry
  split
  · next isNull =>
      cases value with
      | null => rfl
      | _ => cases isNull
  · next present =>
      rw [Option.getD_some, documentValue]
      split
      · next temporal =>
          rw [held]
          rw [DatasetField.cell, if_neg present] at held
          have types := storageType_of_temporal temporal
          apply toJson_of_presentCell held <;> rcases types with type | type | type <;>
            simp [type]
      · next notTemporal =>
          simp only [isTemporal, Bool.or_eq_true, beq_iff_eq, not_or] at notTemporal
          rw [canonical_of_type notTemporal.1 notTemporal.2]

end DatasetField

end Values

/-- The only item with its key, among items of other keys. -/
theorem filter_key_of_apart {α κ : Type} [BEq κ] [LawfulBEq κ] {key : α → κ}
    {items left right : List α} {item : α} (split : left ++ item :: right = items)
    (apart : ∀ other ∈ left ++ right, key other ≠ key item) :
    (items.filter fun other => key other == key item) = [item] := by
  have noneIn {others : List α} (subset : others ⊆ left ++ right) :
      (others.filter fun other => key other == key item) = [] := by
    refine List.filter_eq_nil_iff.mpr fun other member => ?_
    simpa using apart other (subset member)
  rw [← split, List.filter_append, List.filter_cons_of_pos (by simp),
    noneIn (List.subset_append_left _ _), noneIn (List.subset_append_right _ _), List.nil_append]

/-- The first column with a name, behind columns of other names. -/
theorem Relational.Scope.position?_append {left right : List Column} {column : Column}
    (apart : ∀ other ∈ left, other.name ≠ column.name) :
    position? column.name (left ++ column :: right) = some (column, left.length) := by
  have noneBefore : (left.zipIdx.find? fun entry => entry.1.name == column.name) = none := by
    refine List.find?_eq_none.mpr fun (other, place) member => ?_
    have isColumn := List.mem_of_getElem? (List.mk_mem_zipIdx_iff_getElem?.mp member)
    simpa using apart other isColumn
  rw [position?, List.zipIdx_append, List.find?_append, noneBefore]
  simp

namespace Dataset

/-- Tables that are spelled otherwise leave a table alone. -/
theorem kept_foldlM_addTable {naming : Naming} {name : String} {tables : List DatasetTable}
    {database after : Relational.Database}
    (apart : ∀ table ∈ tables, naming.spell table.name ≠ name)
    (added : tables.foldlM (addTable naming) database = .ok after) :
    after.tables.lookup name = database.tables.lookup name := by
  induction tables generalizing database with
  | nil =>
      cases added
      rfl
  | cons first rest ih =>
      obtain ⟨middle, step, others⟩ := Outcome.bind_eq_ok.mp added
      obtain ⟨_, _, lookups⟩ := lookup_addTable step
      rw [ih (fun table later => apart table (List.mem_cons_of_mem _ later)) others, lookups,
        if_neg (apart first List.mem_cons_self).symm]

/-- The rows of a table are converted, and a database has the last table of a spelling. -/
theorem exists_rows_of_database {dataset : Dataset} {naming : Naming}
    {database : Relational.Database} (built : dataset.database naming = .ok database)
    {before later : List DatasetTable} {table : DatasetTable}
    (tables : dataset.tables = before ++ table :: later) :
    ∃ rows, table.rows.mapM table.cells = .ok rows ∧
      ((∀ other ∈ later, naming.spell other.name ≠ naming.spell table.name) →
        database.table (naming.spell table.name) = .ok ⟨table.columns naming, rows⟩) := by
  rw [Dataset.database, tables, List.foldlM_append] at built
  obtain ⟨first, _, others⟩ := Outcome.bind_eq_ok.mp built
  obtain ⟨middle, step, rest⟩ := Outcome.bind_eq_ok.mp others
  obtain ⟨rows, converted, lookups⟩ := lookup_addTable step
  refine ⟨rows, converted, fun apart => ?_⟩
  rw [Relational.Database.table_eq_ok_iff, kept_foldlM_addTable apart rest, lookups, if_pos rfl]

/-- A collection has the documents of all tables of its name. -/
theorem documents_foldl_eq (name : String) (tables : List DatasetTable) (store : Collection.Store) :
    (tables.foldl (fun store table => store.insertAll table.name (table.rows.map table.document))
        store).documents name =
      store.documents name ++
        (tables.filter fun table => table.name == name).flatMap fun table =>
          table.rows.map table.document := by
  induction tables generalizing store with
  | nil => simp
  | cons first rest ih =>
      rw [List.foldl_cons, ih, Collection.Store.documents_insertAll]
      by_cases same : first.name = name
      · subst same
        simp
      · simp [same, Ne.symm same]

end Dataset

section Stores

variable {table : DatasetTable}

/-- A table with a row for each of the dataset. In the first column of a name stand the values of
its field, wherever they are narrow enough for the column. -/
structure DatasetTable.StoredIn (table : DatasetTable) (rowset : Rowset) : Prop where
  count : rowset.rows.length = table.rows.length
  cell : ∀ left field right, table.fields = left ++ field :: right →
    (∀ other ∈ left, Naming.upperCase.spell other.name ≠ Naming.upperCase.spell field.name) →
    field.baseType ≠ .float → field.baseType ≠ .decimal →
    ∀ (place : Nat) (row : List Json), table.rows[place]? = some row →
      ∃ value, row[left.length]? = some value ∧
        ((field.storageType = .varchar → value.Narrow) →
          ∃ cell, rowset.cell? (Naming.upperCase.spell field.name) place = some cell ∧
            cell.toJson.compact = (field.canonical value).compact)

/-- A document for each row of a table, with the values of each field that has a key of its own;
one that is missing is null. -/
structure DatasetTable.DocumentedBy (table : DatasetTable)
    (documents : List Collection.Document) : Prop where
  count : documents.length = table.rows.length
  value : ∀ left field right, table.fields = left ++ field :: right →
    (∀ other ∈ left ++ right, other.documentKey ≠ field.documentKey) →
    ∀ (place : Nat) (row : List Json), table.rows[place]? = some row →
      ∃ (value : Json) (document : Collection.Document), row[left.length]? = some value ∧
        documents[place]? = some document ∧
        (Json.lookup? field.documentKey document).getD .null = field.canonical value

/-- The value of a field in a row of a table, and the cell that it becomes. -/
theorem exists_value_at (widths : ∀ row ∈ table.rows, row.length = table.fields.length)
    {rows : List (List Cell)} (converted : table.rows.mapM table.cells = .ok rows)
    {left right : List DatasetField} {field : DatasetField}
    (fields : table.fields = left ++ field :: right) {place : Nat} {row : List Json}
    (isRow : table.rows[place]? = some row) :
    ∃ value cells cell, row[left.length]? = some value ∧
      (field, value) ∈ table.fields.zip row ∧ rows[place]? = some cells ∧
      cells[left.length]? = some cell ∧ field.cell value = .ok cell := by
  have isField : table.fields[left.length]? = some field := by
    rw [fields, List.getElem?_append_right (Nat.le_refl _), Nat.sub_self, List.getElem?_cons_zero]
  have width := widths row (List.mem_of_getElem? isRow)
  have eachRow := congrArg (·[place]?) (Outcome.mapM_eq_ok_iff.mp converted)
  simp only [List.getElem?_map, isRow, Option.map_some] at eachRow
  obtain ⟨cells, isCells, held⟩ := Option.map_eq_some_iff.mp eachRow.symm
  obtain ⟨value, isValue, isEntry, isCell⟩ :=
    DatasetTable.exists_value held.symm isField (DatasetTable.lt_length_row width isField)
  have cellCount : cells.length = (table.fields.zip row).length := by
    have lengths := congrArg List.length (Outcome.mapM_eq_ok_iff.mp held.symm)
    simpa using lengths.symm
  have inCells : left.length < cells.length := by
    rw [cellCount, List.length_zip, width, Nat.min_self]
    exact (List.getElem?_eq_some_iff.mp isField).1
  refine ⟨value, cells, cells.getD left.length .null, isValue, isEntry, isCells, ?_, isCell⟩
  rw [List.getD_eq_getElem?_getD, List.getElem?_eq_getElem inCells, Option.getD_some]

theorem storedIn_of_rows (widths : ∀ row ∈ table.rows, row.length = table.fields.length)
    {rows : List (List Cell)} (converted : table.rows.mapM table.cells = .ok rows) :
    table.StoredIn ⟨table.columns .upperCase, rows⟩ where
  count := by
    have lengths := congrArg List.length (Outcome.mapM_eq_ok_iff.mp converted)
    simpa using lengths.symm
  cell := by
    intro left field right fields apart notFloat notDecimal place row isRow
    obtain ⟨value, cells, cell, isValue, _, isCells, isCell, held⟩ :=
      exists_value_at widths converted fields isRow
    refine ⟨value, isValue, fun narrow => ⟨cell, ?_, ?_⟩⟩
    · let columnOf (field : DatasetField) : Column :=
        ⟨Naming.upperCase.spell field.name, field.storageType.name⟩
      have columns : table.columns .upperCase =
          left.map columnOf ++ columnOf field :: right.map columnOf := by
        rw [DatasetTable.columns, fields, List.map_append, List.map_cons]
      have columnsApart : ∀ other ∈ left.map columnOf, other.name ≠ (columnOf field).name :=
        List.forall_mem_map.mpr apart
      have isColumn : Relational.Scope.position? (columnOf field).name (table.columns .upperCase) =
          some (columnOf field, left.length) := by
        rw [columns, Relational.Scope.position?_append columnsApart, List.length_map]
      simp only [Rowset.cell?]
      rw [show Naming.upperCase.spell field.name = (columnOf field).name from rfl, isColumn,
        isCells]
      exact isCell
    · exact DatasetField.compact_of_cell held notFloat notDecimal narrow

theorem documentedBy_of_rows (widths : ∀ row ∈ table.rows, row.length = table.fields.length)
    {rows : List (List Cell)} (converted : table.rows.mapM table.cells = .ok rows) :
    table.DocumentedBy (table.rows.map table.document) where
  count := List.length_map _
  value := by
    intro left field right fields apart place row isRow
    obtain ⟨value, _, cell, isValue, isEntry, _, _, held⟩ :=
      exists_value_at widths converted fields isRow
    have width := widths row (List.mem_of_getElem? isRow)
    have only := filter_key_of_apart fields.symm apart
    refine ⟨value, table.document row, isValue, ?_, ?_⟩
    · rw [List.getElem?_map, isRow, Option.map_some]
    · rw [DatasetTable.lookup?_document width isEntry only]
      exact DatasetField.documentEntry_eq_canonical held

/-- What a dataset that passes its checks has in the stores that are filled with it. The database
holds the values of a table unless a later one is spelled alike, and the documents do unless
another one has its name. -/
theorem stores_hold_values {dataset : Dataset} {stores : EmbeddedStores}
    (checked : dataset.check = .ok ()) (embedded : dataset.embed = .ok stores)
    {before later : List DatasetTable} (tables : dataset.tables = before ++ table :: later) :
    ((∀ other ∈ later, Naming.upperCase.spell other.name ≠ Naming.upperCase.spell table.name) →
        ∃ held, stores.database.table (Naming.upperCase.spell table.name) = .ok held ∧
          table.StoredIn held) ∧
      ((∀ other ∈ before ++ later, other.name ≠ table.name) →
        table.DocumentedBy (stores.documents.documents table.name)) := by
  obtain ⟨_, built, documents⟩ := Dataset.embed_eq_ok embedded
  obtain ⟨rows, converted, held⟩ := Dataset.exists_rows_of_database built tables
  have widths := Dataset.width_of_check checked
    (tables ▸ List.mem_append_right _ List.mem_cons_self : table ∈ dataset.tables)
  refine ⟨fun apart => ⟨_, held apart, storedIn_of_rows widths converted⟩, fun apart => ?_⟩
  have collection : stores.documents.documents table.name = table.rows.map table.document := by
    rw [documents, Dataset.documents, Dataset.documents_foldl_eq,
      filter_key_of_apart tables.symm apart]
    simp [Collection.Store.documents, Collection.Store.empty]
  rw [collection]
  exact documentedBy_of_rows widths converted

end Stores

/-- Two fields of one spelling, and two identifiers. -/
def namesakes : DatasetTable where
  name := "people"
  description := none
  fields := [⟨"id", .integer, some .id, none, none⟩, ⟨"code", .integer, some .id, none, none⟩,
    ⟨"name", .text, none, none, none⟩, ⟨"Name", .text, none, none, none⟩]
  rows := [[.whole 1, .whole 2, .string "a", .string "b"]]

/-- A table, and another one that is spelled alike. -/
def mixedPeople : Dataset where
  databaseId := 1
  tables := [⟨"People", none, [⟨"id", .integer, none, none, none⟩], [[.whole 7], [.whole 8]]⟩,
    namesakes]

/-- The only table that is filled with it. -/
def mixedRows : Rowset where
  columns := namesakes.columns .upperCase
  rows := [[.int64 1, .int64 2, .text "a", .text "b"]]

/-- A dataset that passes its checks and fills both stores, neither of which holds all values: the
rows of the first table are lost, the column of one field shows the value of another, and one
identifier stands in the place of the other. -/
theorem mixedPeople_not_held :
    mixedPeople.check = .ok () ∧ ∃ stores held, mixedPeople.embed = .ok stores ∧
      stores.database.table (Naming.upperCase.spell "People") = .ok held ∧
      held.rows.length ≠ 2 ∧
      (held.cell? (Naming.upperCase.spell "Name") 0).map (fun cell => cell.toJson.compact) ≠
        some (Json.string "b").compact ∧
      ((stores.documents.documents "people")[0]?.bind fun document =>
        (Json.lookup? "_id" document).map Json.compact) ≠ some (Json.whole 1).compact := by
  have built : mixedPeople.database .upperCase = .ok ⟨[("PEOPLE", mixedRows)]⟩ := by
    cbv
  refine ⟨rfl, ⟨mixedPeople.catalog, ⟨[("PEOPLE", mixedRows)]⟩, mixedPeople.documents⟩, mixedRows,
    ?_, ?_, ?_, ?_, ?_⟩
  · rw [Dataset.embed, built]
    rfl
  · cbv
  · decide
  · have shown : (mixedRows.cell? (Naming.upperCase.spell "Name") 0).map (fun cell =>
        cell.toJson.compact) = some "\"a\"" := by
      cbv
    have wanted : (Json.string "b").compact = "\"b\"" := by
      cbv
    rw [shown, wanted]
    decide
  · have shown : ((mixedPeople.documents.documents "people")[0]?.bind fun document =>
        (Json.lookup? "_id" document).map Json.compact) = some "2" := by
      cbv
    have wanted : (Json.whole 1).compact = "1" := by
      cbv
    rw [shown, wanted]
    decide

/-- A table of visits, with a day and a moment that are not in their one spelling, and without
some values. -/
def visits : DatasetTable where
  name := "visits"
  description := none
  fields := [⟨"id", .integer, some .id, none, none⟩, ⟨"day", .date, none, none, none⟩,
    ⟨"seen", .timestamp, none, none, none⟩, ⟨"note", .unknown, none, none, none⟩]
  rows := [[.whole 1, .string "2014-4-7", .string "2014-04-07 10:00:00", .array [.whole 3, .null]],
    [.whole 2, .null, .null, .null]]

def rooms : DatasetTable where
  name := "rooms"
  description := none
  fields := [⟨"id", .integer, some .id, none, none⟩]
  rows := [[.whole 1]]

/-- Visits, and rooms of which no more is known. -/
def visited : Dataset where
  databaseId := 1
  tables := [visits, rooms]

theorem visited_held :
    visited.check = .ok () ∧ ∃ stores held, visited.embed = .ok stores ∧
      stores.database.table (Naming.upperCase.spell "visits") = .ok held ∧
      visits.StoredIn held ∧ visits.DocumentedBy (stores.documents.documents "visits") ∧
      (∃ cell, held.cell? (Naming.upperCase.spell "day") 0 = some cell ∧
        cell.toJson.compact = (Json.string "2014-04-07").compact) ∧
      ∃ document, (stores.documents.documents "visits")[0]? = some document ∧
        (Json.lookup? "seen" document).getD .null = .string "2014-04-07T10:00:00" := by
  have embeds : visited.embed.isOk = true := by
    cbv
  cases embedded : visited.embed with
  | error reason =>
      rw [embedded] at embeds
      cases embeds
  | ok stores =>
      have split : visited.tables = [] ++ visits :: [rooms] := rfl
      obtain ⟨tables, documents⟩ := stores_hold_values rfl embedded split
      obtain ⟨held, isTable, stored⟩ := tables (List.forall_mem_singleton.mpr (by decide))
      have documented := documents (List.forall_mem_singleton.mpr (by decide))
      refine ⟨rfl, stores, held, rfl, isTable, stored, documented, ?_, ?_⟩
      · obtain ⟨day, isDay, inColumn⟩ := stored.cell [visits.fields[0]] visits.fields[1]
          (visits.fields.drop 2) rfl (List.forall_mem_singleton.mpr (by decide)) (by decide)
          (by decide) 0 visits.rows[0] rfl
        cases isDay
        have notText : visits.fields[1].storageType ≠ .varchar := by
          decide
        obtain ⟨cell, isCell, written⟩ := inColumn fun isText => absurd isText notText
        exact ⟨cell, isCell, written.trans (by cbv)⟩
      · obtain ⟨seen, document, isSeen, isDocument, inDocument⟩ := documented.value
          (visits.fields.take 2) visits.fields[2] (visits.fields.drop 3) rfl (by decide) 0
          visits.rows[0] rfl
        cases isSeen
        exact ⟨document, isDocument, inDocument.trans (by cbv)⟩

end CrossQuery
