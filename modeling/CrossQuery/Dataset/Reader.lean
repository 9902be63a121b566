import CrossQuery.Dataset
import CrossQuery.Json.Reader

/-!
# Reading datasets

Datasets from JSON texts. What can be read is checked before it is returned.
-/

set_option autoImplicit false

namespace CrossQuery

/-- A field that may be left out or null. -/
def Json.Record.omittable {α : Type} (record : Json.Record) (name : String)
    (read : Json → Option α) : Option (Option α) :=
  record.defaulted name none (Json.nullable read)

def DatasetField.read? (value : Json) : Option DatasetField := do
  let record ← value.record? ["name", "base_type", "special_type", "references", "description"]
  some
    { name := ← record.required "name" Json.readText?
      baseType := ← record.required "base_type" BaseType.read?
      specialType := ← record.omittable "special_type" SpecialType.read?
      references := ← record.omittable "references" Json.readText?
      description := ← record.omittable "description" Json.readText? }

def DatasetTable.read? (value : Json) : Option DatasetTable := do
  let record ← value.record? ["name", "description", "fields", "rows"]
  some
    { name := ← record.required "name" Json.readText?
      description := ← record.omittable "description" Json.readText?
      fields := ← record.required "fields" (Json.readList? DatasetField.read?)
      rows := ← record.defaulted "rows" [] (Json.readList? (Json.readList? Json.readAny?)) }

def Dataset.read? (value : Json) : Option Dataset := do
  let record ← value.record? ["database_id", "tables"]
  some
    { databaseId := ← record.required "database_id" Json.readInt64?
      tables := ← record.required "tables" (Json.readList? DatasetTable.read?) }

def Dataset.parse (text : String) : Except DatasetError Dataset :=
  match (Json.parse? text).bind Dataset.read? with
  | none => .error .unreadable
  | some dataset => do
    dataset.check
    return dataset

end CrossQuery
