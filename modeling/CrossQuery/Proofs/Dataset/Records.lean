import CrossQuery.Proofs.Cell.Admitted
import CrossQuery.Proofs.Collection.Matching
import CrossQuery.Proofs.Dataset.Catalog
import CrossQuery.Proofs.Dataset.Storage

/-!
# Rows and their documents

A row of a dataset becomes a row of cells and a document. Where names and values are regular, the
cell of each field is what the document holds under the key of the field.
-/

set_option autoImplicit false

namespace CrossQuery

/-- The base types of which both stores hold the same values. -/
def BaseType.shared : List BaseType :=
  [.integer, .bigInteger, .text, .boolean, .date, .timestamp]

/-- The absolute value of a whole number. Other values have none. -/
def Json.magnitude : Json → Nat
  | .whole value => value.natAbs
  | _ => 0

/-- The absolute value of an integer. Other cells have none. -/
def Cell.magnitude (cell : Cell) : Nat :=
  (cell.integer?.getD 0).natAbs

namespace DatasetField

/-- A field that both stores hold alike. Its name is neither a path nor an operator, nor the key
under which documents keep identifiers. -/
structure Regular (field : DatasetField) : Prop where
  plain : Collection.PlainName field.name
  notId : field.name ≠ "_id"
  shared : field.baseType ∈ BaseType.shared
  keyIsInteger : field.isPrimaryKey = true →
    field.baseType = .integer ∨ field.baseType = .bigInteger

/-- A value of which both stores hold the same: a text or null in a text field, and a date or
timestamp with a year of four digits where it is one. -/
def PlainValue (field : DatasetField) (value : Json) : Prop :=
  match field.baseType with
  | .text => value = .null ∨ ∃ text, value = .string text
  | .date => ∀ date, field.cell value = .ok (.date date) → date.HasPlainYear
  | .timestamp => ∀ timestamp, field.cell value = .ok (.timestamp timestamp) →
      timestamp.date.HasPlainYear
  | _ => True

/-- What a document holds for a value of a field. -/
def documentEntry (field : DatasetField) (value : Json) : Option Json :=
  if value.isNull then none else some (field.documentValue value)

variable {field : DatasetField} {value : Json} {cell : Cell}

theorem presentCell_of_integer (type : field.storageType = .bigint ∨ field.storageType = .integer)
    (held : field.presentCell value = .ok cell) :
    ∃ number, value = .whole number ∧ Cell.fitsInt64 number = true ∧
      cell.integer? = some number := by
  unfold presentCell at held
  rcases type with type | type
  · rw [type] at held
    cases value with
    | whole number =>
        dsimp only at held
        split at held
        · next fits =>
            cases held
            have bounds : -(2 ^ 63) ≤ number ∧ number < 2 ^ 63 := by
              simpa [Cell.fitsInt64] using fits
            exact ⟨number, rfl, fits,
              congrArg some (Int64.toInt_ofInt_of_le bounds.1 bounds.2)⟩
        · cases held
    | _ => cases held
  · rw [type] at held
    cases value with
    | whole number =>
        dsimp only at held
        split at held
        · next fits =>
            cases held
            have bounds : -(2 ^ 31) ≤ number ∧ number < 2 ^ 31 := by
              simpa [Cell.fitsInt32] using fits
            have wide : Cell.fitsInt64 number = true := by
              simp only [Cell.fitsInt64, Bool.and_eq_true, decide_eq_true_eq]
              omega
            exact ⟨number, rfl, wide,
              congrArg some (Int32.toInt_ofInt_of_le bounds.1 bounds.2)⟩
        · cases held
    | _ => cases held

theorem presentCell_of_date (type : field.storageType = .date)
    (held : field.presentCell value = .ok cell) : ∃ date, cell = .date date := by
  unfold presentCell at held
  rw [type] at held
  cases value with
  | string text =>
      dsimp only [dateCell] at held
      split at held
      · next date _ =>
          cases held
          exact ⟨date, rfl⟩
      · cases held
  | _ => cases held

theorem presentCell_of_timestamp (type : field.storageType = .timestamp)
    (held : field.presentCell value = .ok cell) : ∃ timestamp, cell = .timestamp timestamp := by
  unfold presentCell at held
  rw [type] at held
  cases value with
  | string text =>
      dsimp only [timestampCell] at held
      split at held
      · next timestamp _ =>
          cases held
          exact ⟨timestamp, rfl⟩
      · cases held
  | _ => cases held

theorem presentCell_of_boolean (type : field.storageType = .boolean)
    (held : field.presentCell value = .ok cell) :
    ∃ truth, value = .bool truth ∧ cell = .bool truth := by
  unfold presentCell at held
  rw [type] at held
  cases value with
  | bool truth =>
      cases held
      exact ⟨truth, rfl, rfl⟩
  | _ => cases held

theorem storageType_of_not_key (notKey : field.isPrimaryKey = false) :
    field.storageType =
      match field.baseType with
      | .integer => .integer
      | .bigInteger => .bigint
      | .float => .double
      | .decimal => .decimal
      | .text | .unknown => .varchar
      | .boolean => .boolean
      | .date => .date
      | .timestamp => .timestamp := by
  rw [storageType, notKey]
  rfl

/-- A field of integers has a column of integers, whether it is the primary key or not. -/
theorem storageType_of_integer (isInteger : field.baseType = .integer ∨ field.baseType = .bigInteger) :
    field.storageType = .bigint ∨ field.storageType = .integer := by
  cases isKey : field.isPrimaryKey with
  | true => exact .inl (by simp [storageType, isKey])
  | false =>
      rw [storageType_of_not_key isKey]
      rcases isInteger with same | same <;> simp [same]

theorem Regular.isPrimaryKey_eq_false (regular : field.Regular)
    (notInteger : ¬ (field.baseType = .integer ∨ field.baseType = .bigInteger)) :
    field.isPrimaryKey = false := by
  cases isKey : field.isPrimaryKey with
  | false => rfl
  | true => exact absurd (regular.keyIsInteger isKey) notInteger

/-- Documents hold the values of a field as they are, but for dates and timestamps. -/
theorem documentValue_eq_self (notDate : field.baseType ≠ .date)
    (notTimestamp : field.baseType ≠ .timestamp) (value : Json) :
    field.documentValue value = value := by
  simp [documentValue, isTemporal, notDate, notTimestamp]

/-- Documents hold the canonical text of a date or timestamp. -/
theorem documentValue_of_temporal
    (temporal : field.baseType = .date ∨ field.baseType = .timestamp)
    (held : field.cell value = .ok cell) : field.documentValue value = cell.toJson := by
  rcases temporal with same | same <;> simp [documentValue, isTemporal, same, held]

/-- The cell of a value that is not null, and what documents hold for the value. -/
theorem Regular.presentCell_and_document (regular : field.Regular) (plain : field.PlainValue value)
    (isPresent : value.isNull = false) (held : field.cell value = .ok cell) :
    field.baseType.Admits cell ∧ cell.Stored (some (field.documentValue value)) := by
  have present : field.presentCell value = .ok cell := by
    rwa [DatasetField.cell, isPresent] at held
  by_cases isInteger : field.baseType = .integer ∨ field.baseType = .bigInteger
  · obtain ⟨number, rfl, fits, isNumber⟩ :=
      presentCell_of_integer (storageType_of_integer isInteger) present
    have unchanged : field.documentValue (.whole number) = .whole number :=
      documentValue_eq_self (by rcases isInteger with same | same <;> simp [same])
        (by rcases isInteger with same | same <;> simp [same]) _
    rw [unchanged]
    exact ⟨.integer isInteger isNumber, .integer isNumber fits⟩
  · have type := storageType_of_not_key (regular.isPrimaryKey_eq_false isInteger)
    have shared := regular.shared
    simp only [BaseType.shared, List.mem_cons, List.not_mem_nil, or_false] at shared
    unfold PlainValue at plain
    rcases shared with same | same | same | same | same | same
    · exact absurd (.inl same) isInteger
    · exact absurd (.inr same) isInteger
    · rw [same] at type plain
      rw [documentValue_eq_self (by simp [same]) (by simp [same]), same]
      rcases plain with rfl | ⟨text, rfl⟩
      · cases isPresent
      · have isText : cell = .text text := by
          simpa [presentCell, type, Cell.ofJson] using present.symm
        exact isText ▸ ⟨.text text, .text text⟩
    · rw [same] at type
      rw [documentValue_eq_self (by simp [same]) (by simp [same]), same]
      obtain ⟨truth, rfl, rfl⟩ := presentCell_of_boolean type present
      exact ⟨.boolean truth, .boolean truth⟩
    · rw [documentValue_of_temporal (.inl same) held]
      rw [same] at type plain ⊢
      obtain ⟨date, rfl⟩ := presentCell_of_date type present
      exact ⟨.date (plain date held), .date (plain date held)⟩
    · rw [documentValue_of_temporal (.inr same) held]
      rw [same] at type plain ⊢
      obtain ⟨timestamp, rfl⟩ := presentCell_of_timestamp type present
      exact ⟨.timestamp (plain timestamp held), .timestamp (plain timestamp held)⟩

/-- The cell of a value is one that its field admits, and documents hold the value for it. -/
theorem Regular.admits_and_stored (regular : field.Regular) (plain : field.PlainValue value)
    (held : field.cell value = .ok cell) :
    field.baseType.Admits cell ∧ cell.Stored (field.documentEntry value) := by
  cases isNull : value.isNull with
  | true =>
      rw [DatasetField.cell, if_pos isNull] at held
      cases held
      rw [documentEntry, if_pos isNull]
      exact ⟨.null, .missing⟩
  | false =>
      have entry : field.documentEntry value = some (field.documentValue value) := by
        rw [documentEntry, isNull]
        rfl
      rw [entry]
      exact regular.presentCell_and_document plain isNull held

/-- The cell of a value in a field of integers has its absolute value. -/
theorem magnitude_of_cell (isInteger : field.baseType = .integer ∨ field.baseType = .bigInteger)
    (held : field.cell value = .ok cell) : cell.magnitude = value.magnitude := by
  cases isNull : value.isNull with
  | true =>
      rw [DatasetField.cell, if_pos isNull] at held
      cases held
      cases value with
      | null => rfl
      | _ => cases isNull
  | false =>
      rw [DatasetField.cell, isNull] at held
      obtain ⟨number, rfl, _, isNumber⟩ :=
        presentCell_of_integer (storageType_of_integer isInteger) held
      rw [Cell.magnitude, isNumber]
      rfl

end DatasetField

namespace DatasetTable

/-- A table that both stores hold alike: its fields are told apart in any case and by their keys in
documents, as there is one primary key at most. -/
structure Regular (table : DatasetTable) : Prop where
  fields : ∀ field ∈ table.fields, field.Regular
  names : (table.fields.map fun field => Naming.upperCase.spell field.name).Nodup
  oneKey : (table.fields.filter DatasetField.isPrimaryKey).length ≤ 1
  values : ∀ row ∈ table.rows, ∀ entry ∈ table.fields.zip row, entry.1.PlainValue entry.2

/-- Names that are told apart in one spelling differ. -/
theorem Regular.plainNames {table : DatasetTable} (regular : table.Regular) :
    (table.fields.map DatasetField.name).Nodup := by
  have spelled := regular.names
  rw [show (fun field : DatasetField => Naming.upperCase.spell field.name) =
    Naming.upperCase.spell ∘ DatasetField.name from rfl, ← List.map_map] at spelled
  exact List.Pairwise.of_map _ (fun _ _ differ same => differ (congrArg _ same)) spelled

theorem nodup_documentKeys {fields : List DatasetField}
    (names : (fields.map DatasetField.name).Nodup) (notId : ∀ field ∈ fields, field.name ≠ "_id")
    (oneKey : (fields.filter DatasetField.isPrimaryKey).length ≤ 1) :
    (fields.map DatasetField.documentKey).Nodup := by
  induction fields with
  | nil => exact List.nodup_nil
  | cons field rest ih =>
      rw [List.map_cons, List.nodup_cons] at names ⊢
      have restNotId : ∀ other ∈ rest, other.name ≠ "_id" :=
        fun other member => notId other (List.mem_cons_of_mem _ member)
      have restOneKey : (rest.filter DatasetField.isPrimaryKey).length ≤ 1 :=
        Nat.le_trans ((List.sublist_cons_self field rest).filter _).length_le oneKey
      refine ⟨fun clash => ?_, ih names.2 restNotId restOneKey⟩
      obtain ⟨other, member, same⟩ := List.mem_map.mp clash
      unfold DatasetField.documentKey at same
      cases isKey : field.isPrimaryKey with
      | true =>
          cases isOtherKey : other.isPrimaryKey with
          | true =>
              have both : other ∈ rest.filter DatasetField.isPrimaryKey :=
                List.mem_filter.mpr ⟨member, isOtherKey⟩
              rw [List.filter_cons_of_pos isKey, List.length_cons] at oneKey
              have positive := List.length_pos_of_mem both
              omega
          | false =>
              rw [isKey, isOtherKey] at same
              exact restNotId other member same
      | false =>
          cases isOtherKey : other.isPrimaryKey with
          | true =>
              rw [isKey, isOtherKey] at same
              exact notId field List.mem_cons_self same.symm
          | false =>
              rw [isKey, isOtherKey] at same
              exact names.1 (List.mem_map.mpr ⟨other, member, same⟩)

theorem Regular.documentKeys {table : DatasetTable} (regular : table.Regular) :
    (table.fields.map DatasetField.documentKey).Nodup :=
  nodup_documentKeys regular.plainNames (fun field member => (regular.fields field member).notId)
    regular.oneKey

/-- The document with the value of one field more. -/
def extend (document : Collection.Document) (entry : DatasetField × Json) : Collection.Document :=
  if entry.2.isNull then document
  else Json.assign entry.1.documentKey (entry.1.documentValue entry.2) document

theorem document_eq_foldl (table : DatasetTable) (row : List Json) :
    table.document row = (table.fields.zip row).foldl extend [] := rfl

theorem lookup?_extend_self {document : Collection.Document} (entry : DatasetField × Json)
    (fresh : Json.lookup? entry.1.documentKey document = none) :
    Json.lookup? entry.1.documentKey (extend document entry) =
      entry.1.documentEntry entry.2 := by
  unfold extend DatasetField.documentEntry
  split
  · exact fresh
  · exact Json.lookup?_assign_self _ _ _

theorem lookup?_extend_of_ne {key : String} {entry : DatasetField × Json}
    (differs : key ≠ entry.1.documentKey) (document : Collection.Document) :
    Json.lookup? key (extend document entry) = Json.lookup? key document := by
  unfold extend
  split
  · rfl
  · exact Json.lookup?_assign_of_ne (Ne.symm differs) _ _

theorem lookup?_foldl_of_not_mem {entries : List (DatasetField × Json)} {key : String}
    (apart : key ∉ entries.map fun entry => entry.1.documentKey)
    (document : Collection.Document) :
    Json.lookup? key (entries.foldl extend document) = Json.lookup? key document := by
  induction entries generalizing document with
  | nil => rfl
  | cons entry rest ih =>
      rw [List.map_cons, List.mem_cons, not_or] at apart
      rw [List.foldl_cons, ih apart.2, lookup?_extend_of_ne apart.1]

/-- A document has the value of the only field with its key. -/
theorem lookup?_foldl {entries : List (DatasetField × Json)} {entry : DatasetField × Json}
    (only : (entries.filter fun other => other.1.documentKey == entry.1.documentKey) = [entry])
    {document : Collection.Document} (fresh : Json.lookup? entry.1.documentKey document = none) :
    Json.lookup? entry.1.documentKey (entries.foldl extend document) =
      entry.1.documentEntry entry.2 := by
  induction entries generalizing document with
  | nil => cases only
  | cons first rest ih =>
      rw [List.foldl_cons]
      by_cases same : first.1.documentKey = entry.1.documentKey
      · rw [List.filter_cons_of_pos (by simpa using same)] at only
        obtain ⟨rfl, noneLater⟩ := List.cons.inj only
        rw [lookup?_foldl_of_not_mem]
        · exact lookup?_extend_self first fresh
        · intro member
          obtain ⟨other, isLater, sameKey⟩ := List.mem_map.mp member
          exact List.filter_eq_nil_iff.mp noneLater other isLater (beq_iff_eq.mpr sameKey)
      · rw [List.filter_cons_of_neg (by simpa using same)] at only
        exact ih only ((lookup?_extend_of_ne (Ne.symm same) document).trans fresh)

variable {table : DatasetTable} {row : List Json} {cells : List Cell}

/-- The cell of a field in a row is that of the value of the field. -/
theorem exists_value (held : table.cells row = .ok cells) {place : Nat} {field : DatasetField}
    (isField : table.fields[place]? = some field) (inRow : place < row.length) :
    ∃ value, row[place]? = some value ∧ (field, value) ∈ table.fields.zip row ∧
      field.cell value = .ok (cells.getD place .null) := by
  have isEntry : (table.fields.zip row)[place]? = some (field, row[place]) := by
    rw [List.getElem?_zip_eq_some]
    exact ⟨isField, List.getElem?_eq_getElem inRow⟩
  have eachCell := congrArg (·[place]?) (Outcome.mapM_eq_ok_iff.mp held)
  simp only [List.getElem?_map, isEntry, Option.map_some] at eachCell
  obtain ⟨cell, isCell, converted⟩ := Option.map_eq_some_iff.mp eachCell.symm
  refine ⟨row[place], List.getElem?_eq_getElem inRow, List.mem_of_getElem? isEntry, ?_⟩
  rw [List.getD_eq_getElem?_getD, isCell]
  exact converted.symm

/-- Each field of a table stands in a row that is as wide. -/
theorem lt_length_row (width : row.length = table.fields.length) {place : Nat}
    {field : DatasetField} (isField : table.fields[place]? = some field) : place < row.length :=
  width ▸ (List.getElem?_eq_some_iff.mp isField).1

/-- The document of a row has the value of a field that no other shares its key with. -/
theorem lookup?_document (width : row.length = table.fields.length) {field : DatasetField}
    {value : Json} (isEntry : (field, value) ∈ table.fields.zip row)
    (only : (table.fields.filter fun other => other.documentKey == field.documentKey) = [field]) :
    Json.lookup? field.documentKey (table.document row) = field.documentEntry value := by
  have areFields : (table.fields.zip row).map Prod.fst = table.fields :=
    List.map_fst_zip (Nat.le_of_eq width.symm)
  have someEntry : (field, value) ∈
      (table.fields.zip row).filter fun other => other.1.documentKey == field.documentKey :=
    List.mem_filter.mpr ⟨isEntry, beq_self_eq_true _⟩
  rw [← areFields, List.filter_map] at only
  have oneEntry := congrArg List.length only
  rw [List.length_map, List.length_singleton, List.length_eq_one_iff] at oneEntry
  obtain ⟨entry, isOnly⟩ := oneEntry
  have isOnly : ((table.fields.zip row).filter fun other =>
      other.1.documentKey == field.documentKey) = [entry] := isOnly
  rw [isOnly, List.mem_singleton] at someEntry
  subst someEntry
  rw [document_eq_foldl]
  have fresh : Json.lookup? (field, value).1.documentKey [] = none := rfl
  exact lookup?_foldl isOnly fresh

/-- The cell of each field of a row is what the document of the row holds under the key of the
field. -/
theorem Regular.cell_and_document (regular : table.Regular) (member : row ∈ table.rows)
    (width : row.length = table.fields.length) (held : table.cells row = .ok cells) {place : Nat}
    {field : DatasetField} (isField : table.fields[place]? = some field) :
    field.baseType.Admits (cells.getD place .null) ∧
      (cells.getD place .null).Stored (Json.lookup? field.documentKey (table.document row)) := by
  obtain ⟨value, _, isEntry, converted⟩ := exists_value held isField (lt_length_row width isField)
  have isMember := List.mem_of_getElem? isField
  rw [lookup?_document width isEntry (filter_key_of_nodup regular.documentKeys isMember)]
  exact (regular.fields field isMember).admits_and_stored (regular.values row member _ isEntry)
    converted

/-- A row of cells and a document in pair are made of one row. -/
theorem exists_row_of_record {rows : List (List Cell)}
    (converted : table.rows.mapM table.cells = .ok rows)
    {record : List Cell × Collection.Document}
    (isRecord : record ∈ rows.zip (table.rows.map table.document)) :
    ∃ row ∈ table.rows, table.cells row = .ok record.1 ∧ record.2 = table.document row := by
  have eachRow := Outcome.mapM_eq_ok_iff.mp converted
  obtain ⟨place, isPlace⟩ := List.mem_iff_getElem?.mp isRecord
  obtain ⟨isCells, isDocument⟩ := List.getElem?_zip_eq_some.mp isPlace
  rw [List.getElem?_map, Option.map_eq_some_iff] at isDocument
  obtain ⟨row, isRow, made⟩ := isDocument
  refine ⟨row, List.mem_of_getElem? isRow, ?_, made.symm⟩
  have cells := congrArg (·[place]?) eachRow
  simpa [isRow, isCells] using cells

/-- The sum of the absolute values in a column of integers. -/
def magnitude (table : DatasetTable) (place : Nat) : Nat :=
  (table.rows.map fun row => (row.getD place .null).magnitude).sum

/-- The cells of a column of integers have the absolute values of the column. -/
theorem magnitude_eq (widths : ∀ row ∈ table.rows, row.length = table.fields.length)
    {rows : List (List Cell)} (converted : table.rows.mapM table.cells = .ok rows) {place : Nat}
    {field : DatasetField} (isField : table.fields[place]? = some field)
    (isInteger : field.baseType = .integer ∨ field.baseType = .bigInteger) :
    (rows.map fun cells => (cells.getD place .null).magnitude).sum = table.magnitude place := by
  refine congrArg List.sum (Outcome.map_eq_map_of_mapM converted fun row isRow cells held => ?_)
  obtain ⟨value, isValue, _, isCell⟩ :=
    exists_value held isField (lt_length_row (widths row isRow) isField)
  rw [DatasetField.magnitude_of_cell isInteger isCell, List.getD_eq_getElem?_getD, isValue]
  rfl

end DatasetTable

end CrossQuery
