import CrossQuery.Capability
import CrossQuery.Envelope
import CrossQuery.Rowset

/-!
# Describing results

The descriptions of the columns that a store returned for a plan. They come from the catalog, and
differ between stores only where capabilities differ: in the width of identifiers, in foreign keys
and in the spelling of names.
-/

set_option autoImplicit false

namespace CrossQuery

/-- The names that the columns of a plan have in a result. -/
def Plan.columnNames (plan : Plan) (capabilities : Capabilities) : List String :=
  plan.columns.map capabilities.columnName

/-- The role of a field, and the table that it refers to. A foreign key is one only where the
store has foreign keys, and a category elsewhere. -/
def Field.overlay (field : Field) (capabilities : Capabilities) :
    Option SpecialType × Option Int :=
  if field.specialType = some .foreignKey then
    if capabilities.supportsForeignKeys then (some .foreignKey, field.target)
    else (some .category, none)
  else (field.specialType, none)

/-- The storage type that a result shows for a field. -/
def Field.shownType (field : Field) (capabilities : Capabilities) : BaseType :=
  if field.isPrimaryKey then capabilities.identifierWidth.baseType else field.baseType

def AggregateKind.shownType (kind : AggregateKind) (source : Option Field) : BaseType :=
  match kind with
  | .count | .distinct => .integer
  | .sum => (source.map Field.baseType).getD .integer
  | .average => .float

def AggregateKind.shownRole (kind : AggregateKind) (source : Option Field)
    (capabilities : Capabilities) : Option SpecialType :=
  match kind with
  | .count | .average => some .number
  | .distinct | .sum => source.bind fun field => (field.overlay capabilities).1

/-- A field as the catalog has it. -/
def Catalog.describedField (catalog : Catalog) (field : PlanField) : Except Failure Field :=
  (catalog.field field.field.id).mapError NotFound.failure

def PlanColumn.describe (column : PlanColumn) (catalog : Catalog) (capabilities : Capabilities) :
    Except Failure ColumnDescriptor := do
  let name := capabilities.columnName column
  match column with
  | .field shown =>
    let field ← catalog.describedField shown
    let (role, target) := field.overlay capabilities
    return {
      name := name
      baseType := field.shownType capabilities
      specialType := role
      tableId := some field.tableId
      fieldId := some field.id
      targetTable := target
      description := field.description }
  | .aggregate kind source =>
    let source ← source.mapM catalog.describedField
    return {
      name := name
      baseType := kind.shownType source
      specialType := kind.shownRole source capabilities
      tableId := none
      fieldId := none
      targetTable := none
      description := none }

/-- The failure of a result whose columns are not those of the plan. -/
def misalignedFailure (expected found : List String) : Failure :=
  .execution
    ("result columns do not match the plan: expected [" ++ String.intercalate ", " expected ++
      "], got [" ++ String.intercalate ", " found ++ "]")

/-- The descriptions of the columns that a store returned, which must be those of the plan. -/
def Plan.describe (plan : Plan) (columns : List Column) (catalog : Catalog)
    (capabilities : Capabilities) : Except Failure (List ColumnDescriptor) :=
  let expected := plan.columnNames capabilities
  let found := columns.map Column.name
  if found = expected then
    plan.columns.mapM fun column => column.describe catalog capabilities
  else
    .error (misalignedFailure expected found)

end CrossQuery
