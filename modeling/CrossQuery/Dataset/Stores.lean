import CrossQuery.Capability
import CrossQuery.Collection.Document
import CrossQuery.Dataset
import CrossQuery.Relational.Database

/-!
# Filling stores

The tables and the documents of a dataset. Tables hold typed cells; documents hold the JSON values
themselves, leave nulls out, and spell dates and timestamps in one way.
-/

set_option autoImplicit false

namespace CrossQuery

/-- The types of the columns of tables. -/
inductive StorageType where
  | bigint
  | integer
  | double
  | decimal
  | varchar
  | boolean
  | date
  | timestamp
deriving DecidableEq

def StorageType.name : StorageType → String
  | .bigint => "BIGINT"
  | .integer => "INTEGER"
  | .double => "DOUBLE"
  | .decimal => "DECIMAL"
  | .varchar => "VARCHAR"
  | .boolean => "BOOLEAN"
  | .date => "DATE"
  | .timestamp => "TIMESTAMP"

namespace DatasetField

/-- The type of the column of a field. Primary keys are wide integers. -/
def storageType (field : DatasetField) : StorageType :=
  if field.isPrimaryKey then .bigint
  else
    match field.baseType with
    | .integer => .integer
    | .bigInteger => .bigint
    | .float => .double
    | .decimal => .decimal
    | .text | .unknown => .varchar
    | .boolean => .boolean
    | .date => .date
    | .timestamp => .timestamp

def readNumber? : Json → Option Float
  | .whole value => some (Float.ofInt value)
  | .real value => some value
  | _ => none

/-- A text as a date of a field. -/
def dateCell (field : DatasetField) (text : String) : Except DatasetError Cell :=
  match Calendar.readDate? text.toList with
  | some date => .ok (.date date)
  | none => .error (.invalidDate field.name)

/-- A text as a timestamp of a field. -/
def timestampCell (field : DatasetField) (text : String) : Except DatasetError Cell :=
  match Calendar.readTimestamp? text.toList with
  | some timestamp => .ok (.timestamp timestamp)
  | none => .error (.invalidTimestamp field.name)

/-- The cell of a value that is not null. A text field holds any value. -/
def presentCell (field : DatasetField) (value : Json) : Except DatasetError Cell :=
  match field.storageType, value with
  | .bigint, .whole number =>
    if Cell.fitsInt64 number then .ok (.int64 (Int64.ofInt number))
    else .error (.misfit field.name value)
  | .integer, .whole number =>
    if Cell.fitsInt32 number then .ok (.int32 (Int32.ofInt number))
    else .error (.misfit field.name value)
  | .double, value | .decimal, value =>
    match readNumber? value with
    | some number => .ok (.float64 number)
    | none => .error (.misfit field.name value)
  | .boolean, .bool truth => .ok (.bool truth)
  | .date, .string text => field.dateCell text
  | .timestamp, .string text => field.timestampCell text
  | .varchar, value => .ok (.ofJson value)
  | _, value => .error (.misfit field.name value)

def cell (field : DatasetField) (value : Json) : Except DatasetError Cell :=
  if value.isNull then .ok .null else field.presentCell value

/-- Whether a field holds dates or timestamps. -/
def isTemporal (field : DatasetField) : Bool :=
  field.baseType == .date || field.baseType == .timestamp

/-- The value of a field in a document. -/
def documentValue (field : DatasetField) (value : Json) : Json :=
  if field.isTemporal then
    match field.cell value with
    | .ok cell => cell.toJson
    | .error _ => value
  else value

/-- The name of a field in documents. -/
def documentKey (field : DatasetField) : String :=
  if field.isPrimaryKey then "_id" else field.name

end DatasetField

namespace DatasetTable

def columns (table : DatasetTable) (naming : Naming) : List Column :=
  table.fields.map fun field => ⟨naming.spell field.name, field.storageType.name⟩

def cells (table : DatasetTable) (row : List Json) : Except DatasetError (List Cell) :=
  (table.fields.zip row).mapM fun (field, value) => field.cell value

/-- The document of a row. Of two fields of one name the later counts. -/
def document (table : DatasetTable) (row : List Json) : Collection.Document :=
  (table.fields.zip row).foldl
    (fun document (field, value) =>
      if value.isNull then document
      else Json.assign field.documentKey (field.documentValue value) document)
    []

end DatasetTable

namespace Dataset

def addTable (naming : Naming) (database : Relational.Database) (table : DatasetTable) :
    Except DatasetError Relational.Database := do
  let name := naming.spell table.name
  let rows ← table.rows.mapM table.cells
  ((database.createTable name (table.columns naming)).insertAll name rows).mapError
    fun refusal => .refused refusal.message

/-- The database of a dataset, with names spelled in one way. -/
def database (dataset : Dataset) (naming : Naming) : Except DatasetError Relational.Database :=
  dataset.tables.foldlM (addTable naming) .empty

/-- The documents of a dataset, in one collection for each table that has rows. -/
def documents (dataset : Dataset) : Collection.Store :=
  dataset.tables.foldl
    (fun store table => store.insertAll table.name (table.rows.map table.document)) .empty

end Dataset

/-- The stores that hold the same dataset, and the catalog of it. -/
structure EmbeddedStores where
  catalog : Catalog
  database : Relational.Database
  documents : Collection.Store

def Dataset.embed (dataset : Dataset) : Except DatasetError EmbeddedStores := do
  return ⟨dataset.catalog, ← dataset.database .upperCase, dataset.documents⟩

end CrossQuery
