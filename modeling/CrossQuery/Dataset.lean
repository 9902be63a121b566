import CrossQuery.Catalog.Builder
import CrossQuery.Json.Writer

/-!
# Datasets

Snapshots of the tables of one database: the fields with their metadata, and rows of JSON values.
The same data fills a store of tables and a store of documents.
-/

set_option autoImplicit false

namespace CrossQuery

structure DatasetField where
  name : String
  baseType : BaseType
  specialType : Option SpecialType
  /-- The name of the table that the field refers to. -/
  references : Option String
  description : Option String
deriving DecidableEq

structure DatasetTable where
  name : String
  description : Option String
  fields : List DatasetField
  /-- Rows with one value for each field. -/
  rows : List (List Json)

structure Dataset where
  databaseId : Int
  tables : List DatasetTable

def DatasetField.isPrimaryKey (field : DatasetField) : Bool :=
  field.specialType == some .id

/-- Why a dataset is refused. -/
inductive DatasetError where
  | unreadable
  | rowWidth (table : String) (row found expected : Nat)
  | noTarget (table field target : String)
  | misfit (field : String) (value : Json)
  | invalidDate (field : String)
  | invalidTimestamp (field : String)
  /-- The store of tables refuses a row, in its own words. -/
  | refused (message : String)

def DatasetError.message : DatasetError → String
  | .unreadable => "Failed to parse dataset"
  | .rowWidth table row found expected =>
    "row " ++ String.ofList (Text.writeNat row) ++ " of table " ++ table ++ " has " ++
      String.ofList (Text.writeNat found) ++ " values, expected " ++
      String.ofList (Text.writeNat expected)
  | .noTarget table field target =>
    "field " ++ table ++ "." ++ field ++ " references unknown table " ++ target
  | .misfit field value => "value " ++ value.compact ++ " does not fit field " ++ field
  | .invalidDate field => "invalid date in field " ++ field
  | .invalidTimestamp field => "invalid timestamp in field " ++ field
  | .refused message => message

namespace Dataset

/-- The rows of a table must have one value for each field. -/
def checkRows (table : DatasetTable) : Except DatasetError Unit :=
  match table.rows.zipIdx.find? fun entry => entry.1.length != table.fields.length with
  | none => .ok ()
  | some (row, place) => .error (.rowWidth table.name place row.length table.fields.length)

/-- The table that a field refers to must be in the dataset. -/
def checkTarget (dataset : Dataset) (table : DatasetTable) (field : DatasetField) :
    Except DatasetError Unit :=
  match field.references with
  | none => .ok ()
  | some target =>
    if dataset.tables.any fun other => other.name == target then .ok ()
    else .error (.noTarget table.name field.name target)

/-- Check the rows and references of every table, in order. -/
def check (dataset : Dataset) : Except DatasetError Unit :=
  dataset.tables.forM fun table => do
    checkRows table
    table.fields.forM fun field => dataset.checkTarget table field

/-- What a field of a dataset adds to a catalog. Its target is set once all tables are there. -/
def fieldSpec (field : DatasetField) : FieldSpec :=
  { name := field.name
    baseType := field.baseType
    specialType := field.specialType
    target := none
    description := field.description }

/-- What is known while tables are added to a catalog. -/
structure Installation where
  builder : CatalogBuilder
  /-- The identifiers of the tables by name; of two tables of one name the later counts. -/
  tableIds : List (String × Int)
  /-- The fields that refer to a table, with the name of that table. -/
  pending : List (Int × String)

def Installation.addField (tableId : Int) (state : Installation) (field : DatasetField) :
    Installation :=
  let (id, builder) := state.builder.addField tableId (fieldSpec field)
  { state with
    builder := builder
    pending :=
      match field.references with
      | some target => state.pending ++ [(id, target)]
      | none => state.pending }

def Installation.addTable (databaseId : Int) (state : Installation) (table : DatasetTable) :
    Installation :=
  let (id, builder) := state.builder.addTable databaseId table.name
  table.fields.foldl (Installation.addField id)
    { state with
      builder := builder
      tableIds := (table.name, id) :: state.tableIds }

/-- Set the targets of the fields that refer to a table. -/
def Installation.finish (state : Installation) : CatalogBuilder :=
  state.pending.foldl
    (fun builder (fieldId, target) =>
      match state.tableIds.lookup target with
      | some tableId => builder.setForeignKey fieldId tableId
      | none => builder)
    state.builder

/-- Add the tables and fields of a dataset to a catalog under construction. -/
def install (dataset : Dataset) (builder : CatalogBuilder) : CatalogBuilder :=
  (dataset.tables.foldl (Installation.addTable dataset.databaseId) ⟨builder, [], []⟩).finish

def catalog (dataset : Dataset) : Catalog :=
  (dataset.install .empty).catalog

end Dataset

def DatasetField.toJson (field : DatasetField) : Json :=
  .object
    [("name", .string field.name), ("base_type", .string field.baseType.name),
      ("special_type", Json.ofOption (fun special => .string special.label) field.specialType),
      ("references", Json.ofOption .string field.references),
      ("description", Json.ofOption .string field.description)]

def DatasetTable.toJson (table : DatasetTable) : Json :=
  .object
    [("name", .string table.name), ("description", Json.ofOption .string table.description),
      ("fields", .array (table.fields.map DatasetField.toJson)),
      ("rows", .array (table.rows.map .array))]

def Dataset.toJson (dataset : Dataset) : Json :=
  .object
    [("database_id", .whole dataset.databaseId),
      ("tables", .array (dataset.tables.map DatasetTable.toJson))]

end CrossQuery
