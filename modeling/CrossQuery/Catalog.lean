import CrossQuery.Failure
import CrossQuery.Json.Shape
import CrossQuery.Text.Casing

/-!
# Catalogs

The tables and fields that queries may name, with their identifiers and metadata, and the look-ups
by identifier and by name.
-/

set_option autoImplicit false

namespace CrossQuery

/-- How a field is stored. -/
inductive BaseType where
  | integer
  | bigInteger
  | float
  | decimal
  | text
  | boolean
  | date
  | timestamp
  | unknown
deriving DecidableEq

namespace BaseType

def names : List (String × BaseType) :=
  [("IntegerField", .integer), ("BigIntegerField", .bigInteger), ("FloatField", .float),
    ("DecimalField", .decimal), ("TextField", .text), ("BooleanField", .boolean),
    ("DateField", .date), ("DateTimeField", .timestamp), ("UnknownField", .unknown)]

def name : BaseType → String
  | .integer => "IntegerField"
  | .bigInteger => "BigIntegerField"
  | .float => "FloatField"
  | .decimal => "DecimalField"
  | .text => "TextField"
  | .boolean => "BooleanField"
  | .date => "DateField"
  | .timestamp => "DateTimeField"
  | .unknown => "UnknownField"

def isNumeric : BaseType → Bool
  | .integer | .bigInteger | .float | .decimal => true
  | _ => false

def read? : Json → Option BaseType :=
  Json.readChoice? names

end BaseType

/-- What a field means, whatever its storage type. -/
inductive SpecialType where
  | id
  | category
  | foreignKey
  | number
  | latitude
  | longitude
  | name
deriving DecidableEq

namespace SpecialType

def names : List (String × SpecialType) :=
  [("id", .id), ("category", .category), ("fk", .foreignKey), ("number", .number),
    ("latitude", .latitude), ("longitude", .longitude), ("name", .name)]

def label : SpecialType → String
  | .id => "id"
  | .category => "category"
  | .foreignKey => "fk"
  | .number => "number"
  | .latitude => "latitude"
  | .longitude => "longitude"
  | .name => "name"

def read? : Json → Option SpecialType :=
  Json.readChoice? names

end SpecialType

structure Table where
  id : Int
  databaseId : Int
  name : String
  description : Option String
deriving DecidableEq

structure Field where
  id : Int
  tableId : Int
  name : String
  baseType : BaseType
  specialType : Option SpecialType
  /-- The table whose primary key the field refers to. -/
  target : Option Int
  description : Option String
  /-- The place of the field in its table. -/
  position : Nat
deriving DecidableEq

def Field.isPrimaryKey (field : Field) : Bool :=
  field.specialType == some .id

def Table.toJson (table : Table) : Json :=
  .object [("id", .whole table.id), ("database_id", .whole table.databaseId),
    ("name", .string table.name), ("description", Json.ofOption .string table.description)]

def Field.toJson (field : Field) : Json :=
  .object [("id", .whole field.id), ("table_id", .whole field.tableId),
    ("name", .string field.name), ("base_type", .string field.baseType.name),
    ("special_type", Json.ofOption (fun special => .string special.label) field.specialType),
    ("foreign_key_target", Json.ofOption .whole field.target),
    ("description", Json.ofOption .string field.description),
    ("position", Json.ofNat field.position)]

/-- The tables, the fields and, for each table, the identifiers of its fields in order. -/
structure Catalog where
  tables : List Table
  allFields : List Field
  tableFields : List (Int × List Int)
deriving DecidableEq

namespace Catalog

/-- The text of an identifier in a message. -/
def idText (id : Int) : String :=
  String.ofList (Text.writeInt id)

def table (catalog : Catalog) (id : Int) : Except NotFound Table :=
  match catalog.tables.find? (·.id == id) with
  | some table => .ok table
  | none => .error ⟨.table, idText id⟩

def field? (catalog : Catalog) (id : Int) : Option Field :=
  catalog.allFields.find? (·.id == id)

def field (catalog : Catalog) (id : Int) : Except NotFound Field :=
  match catalog.field? id with
  | some field => .ok field
  | none => .error ⟨.field, idText id⟩

/-- The fields that are listed for a table, as they were added. -/
def listedFields (catalog : Catalog) (tableId : Int) : Except NotFound (List Field) :=
  match catalog.tableFields.lookup tableId with
  | some ids => .ok (ids.filterMap catalog.field?)
  | none => .error ⟨.table, idText tableId⟩

/-- The fields of a table in the order of their positions. -/
def fields (catalog : Catalog) (tableId : Int) : Except NotFound (List Field) :=
  (catalog.listedFields tableId).map fun fields =>
    fields.mergeSort fun left right => left.position ≤ right.position

/-- The first field of a table that is a primary key. -/
def primaryKey (catalog : Catalog) (tableId : Int) : Except NotFound (Option Field) :=
  (catalog.fields tableId).map fun fields => fields.find? Field.isPrimaryKey

/-- The table of a database with a name, up to the case of ASCII letters. -/
def resolveTable (catalog : Catalog) (databaseId : Int) (name : String) : Except NotFound Table :=
  let found := catalog.tables.find? fun table =>
    table.databaseId == databaseId && Text.eqIgnoringAsciiCase table.name name
  match found with
  | some table => .ok table
  | none => .error ⟨.table, name⟩

/-- The field of a table with a name, up to the case of ASCII letters. -/
def resolveField (catalog : Catalog) (tableId : Int) (name : String) : Except NotFound Field := do
  let fields ← catalog.listedFields tableId
  match fields.find? fun field => Text.eqIgnoringAsciiCase field.name name with
  | some field => .ok field
  | none => .error ⟨.field, name⟩

end Catalog

end CrossQuery
