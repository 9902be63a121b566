import CrossQuery.Catalog

/-!
# Building catalogs

A catalog under construction hands out identifiers from 1 upwards, for tables and fields apart.
-/

set_option autoImplicit false

namespace CrossQuery

/-- What is said of a field when it is added. -/
structure FieldSpec where
  name : String
  baseType : BaseType
  specialType : Option SpecialType
  target : Option Int
  description : Option String

structure CatalogBuilder where
  catalog : Catalog
  nextTable : Int
  nextField : Int

namespace CatalogBuilder

def empty : CatalogBuilder :=
  ⟨⟨[], [], []⟩, 1, 1⟩

/-- The lists of fields with the list of a table replaced. -/
def setFields (tableId : Int) (ids : List Int) : List (Int × List Int) → List (Int × List Int)
  | [] => [(tableId, ids)]
  | (id, old) :: rest =>
    if id = tableId then (id, ids) :: rest else (id, old) :: setFields tableId ids rest

/-- Add a table, which has no fields yet, and return its identifier. -/
def addTable (builder : CatalogBuilder) (databaseId : Int) (name : String) : Int × CatalogBuilder :=
  let id := builder.nextTable
  let catalog := builder.catalog
  (id,
    { builder with
      nextTable := id + 1
      catalog :=
        { catalog with
          tables := catalog.tables ++ [⟨id, databaseId, name, none⟩]
          tableFields := setFields id [] catalog.tableFields } })

/-- Add a field to the end of a table's list, which begins with it if there is none, and return
its identifier. -/
def addField (builder : CatalogBuilder) (tableId : Int) (spec : FieldSpec) :
    Int × CatalogBuilder :=
  let id := builder.nextField
  let catalog := builder.catalog
  let ids := (catalog.tableFields.lookup tableId).getD []
  let field : Field :=
    { id := id
      tableId := tableId
      name := spec.name
      baseType := spec.baseType
      specialType := spec.specialType
      target := spec.target
      description := spec.description
      position := ids.length }
  (id,
    { builder with
      nextField := id + 1
      catalog :=
        { catalog with
          allFields := catalog.allFields ++ [field]
          tableFields := setFields tableId (ids ++ [id]) catalog.tableFields } })

/-- Let a field refer to the primary key of a table. A field that does not exist is ignored. -/
def setForeignKey (builder : CatalogBuilder) (fieldId target : Int) : CatalogBuilder :=
  let catalog := builder.catalog
  { builder with
    catalog :=
      { catalog with
        allFields := catalog.allFields.map fun field =>
          if field.id = fieldId then { field with target := some target } else field } }

end CatalogBuilder

end CrossQuery
