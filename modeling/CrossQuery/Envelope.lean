import CrossQuery.Catalog
import CrossQuery.Cell

/-!
# Envelopes and responses

What a caller receives: the rows of a query with a description of each column, or the failure.
-/

set_option autoImplicit false

namespace CrossQuery

/-- The description of a column of a result. -/
structure ColumnDescriptor where
  name : String
  baseType : BaseType
  specialType : Option SpecialType
  /-- The table of the field that the column shows. An aggregate shows none. -/
  tableId : Option Int
  fieldId : Option Int
  /-- The table that a foreign key refers to. -/
  targetTable : Option Int
  description : Option String
deriving DecidableEq

namespace ColumnDescriptor

/-- The description of a column of which only the name is known. -/
def bare (name : String) : ColumnDescriptor :=
  ⟨name, .unknown, none, none, none, none, none⟩

def isSynthetic (column : ColumnDescriptor) : Bool :=
  column.tableId.isNone && column.fieldId.isNone

def toJson (column : ColumnDescriptor) : Json :=
  .object
    [("name", .string column.name), ("base_type", .string column.baseType.name),
      ("special_type", Json.ofOption (fun special => .string special.label) column.specialType),
      ("table_id", Json.ofOption .whole column.tableId),
      ("id", Json.ofOption .whole column.fieldId),
      ("extra_info",
        .object ((column.targetTable.map fun id => ("target_table_id", .whole id)).toList)),
      ("description", Json.ofOption .string column.description)]

end ColumnDescriptor

/-- The rows of a query that was completed. -/
structure Envelope where
  rowCount : Nat
  columns : List String
  descriptors : List ColumnDescriptor
  rows : List (List Cell)
  warnings : List String

namespace Envelope

/-- The envelope of rows, which it holds as they are. -/
def assemble (rows : List (List Cell)) (descriptors : List ColumnDescriptor)
    (warnings : List String) : Envelope :=
  { rowCount := rows.length
    columns := descriptors.map ColumnDescriptor.name
    descriptors := descriptors
    rows := rows
    warnings := warnings }

/-- The values of the first column with a name. -/
def columnValues? (envelope : Envelope) (name : String) : Option (List Cell) :=
  (envelope.columns.findIdx? fun column => column == name).map fun place =>
    envelope.rows.filterMap fun row => row[place]?

/-- The envelope as JSON. Warnings are shown only if there are any. -/
def toJson (envelope : Envelope) : Json :=
  .object
    ([("status", .string "completed"), ("row_count", Json.ofNat envelope.rowCount),
      ("data", .object
        [("columns", .array (envelope.columns.map .string)),
          ("cols", .array (envelope.descriptors.map ColumnDescriptor.toJson)),
          ("rows", .array (envelope.rows.map fun row => .array (row.map Cell.toJson)))])] ++
      if envelope.warnings.isEmpty then []
      else [("warnings", .array (envelope.warnings.map .string))])

end Envelope

/-- The first row with another number of values than wanted, and its place. -/
def misshapenRow? (width : Nat) (rows : List (List Cell)) : Option (List Cell × Nat) :=
  rows.zipIdx.find? fun entry => entry.1.length != width

/-- Every row must have one value for each column. -/
def checkShape (rows : List (List Cell)) (width : Nat) : Except Failure Unit :=
  match misshapenRow? width rows with
  | none => .ok ()
  | some (row, place) =>
    .error
      (.execution
        ("row " ++ String.ofList (Text.writeNat place) ++ " has " ++
          String.ofList (Text.writeNat row.length) ++ " values, expected " ++
          String.ofList (Text.writeNat width)))

/-- What a caller receives: one or the other, never both. -/
inductive Response where
  | completed (envelope : Envelope)
  | failed (failure : Failure)

namespace Response

def ofResult : Except Failure Envelope → Response
  | .ok envelope => .completed envelope
  | .error failure => .failed failure

def status : Response → String
  | .completed _ => "completed"
  | .failed _ => "failed"

def envelope? : Response → Option Envelope
  | .completed envelope => some envelope
  | .failed _ => none

def toJson : Response → Json
  | .completed envelope => envelope.toJson
  | .failed failure =>
    .object
      [("status", .string "failed"),
        ("error", .object
          [("kind", .string failure.kind.name), ("message", .string failure.message)])]

end Response

end CrossQuery
