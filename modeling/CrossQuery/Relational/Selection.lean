import CrossQuery.Capability
import CrossQuery.Select.Writer

/-!
# Plans as statements

The SELECT statement of a plan. Tables that are reached through foreign keys are left joins under
aliases of their own, and every part of a condition stands in parentheses.
-/

set_option autoImplicit false

namespace CrossQuery

/-- The capabilities of a store of tables, which differ in the spelling of names only. -/
def Capabilities.relational (naming : Naming) : Capabilities :=
  { supportsForeignKeys := true
    identifierWidth := .wide
    naming := naming }

/-- The failure of an aggregate that lacks the field it is computed from. -/
def AggregateKind.requiresField (kind : AggregateKind) : Failure :=
  .invalidQuery (kind.columnName ++ " aggregation requires a field")

namespace Relational

open Select

def columnOfField (naming : Naming) (field : PlanField) : Expression :=
  .column (some (naming.spell field.tableAlias)) (naming.spell field.field.name)

/-- The join of a table on its primary key. -/
def joinOfPlan (naming : Naming) (source : String) (join : PlanJoin) : Join :=
  let name := naming.spell join.tableAlias
  { kind := .left
    table := ⟨naming.spell join.target.name, some name⟩
    condition :=
      .binary (.compare .equal) (.column (some source) (naming.spell join.key.name))
        (.column (some name) (naming.spell join.targetKey.name)) }

def sumType (type : BaseType) : String :=
  match type with
  | .integer | .bigInteger => "BIGINT"
  | _ => "DOUBLE PRECISION"

/-- The expression of an aggregate. The types of sums and averages are fixed by a conversion. -/
def aggregateExpression (naming : Naming) (kind : AggregateKind) (source : Option PlanField) :
    Except Failure Expression :=
  match kind, source with
  | .count, _ => .ok (.aggregate "COUNT" [.wildcard] false)
  | kind, none => .error kind.requiresField
  | .distinct, some field => .ok (.aggregate "COUNT" [columnOfField naming field] true)
  | .sum, some field =>
    .ok (.cast (.aggregate "SUM" [columnOfField naming field] false)
      (sumType field.field.baseType))
  | .average, some field =>
    .ok (.cast (.aggregate "AVG" [columnOfField naming field] false) "DOUBLE PRECISION")

/-- The constant of a cell. Dates and timestamps are converted from their texts. -/
def constantOfCell (cell : Cell) : Expression :=
  match cell with
  | .null => .literal .null
  | .bool value => .literal (.boolean value)
  | .float32 value => .literal (.float value.toFloat)
  | .float64 value => .literal (.float value)
  | .date _ => .cast (.literal (.text cell.display)) "DATE"
  | .timestamp _ => .cast (.literal (.text cell.display)) "TIMESTAMP"
  | cell =>
    match cell.integer? with
    | some value => .literal (.integer (Int64.ofInt value))
    | none => .literal (.text cell.display)

/-- Conditions in parentheses, joined by an operator. Without any, a constant stands for them. -/
def joinConditions (operator : BinaryOperator) (constant : Bool) : List Expression → Expression
  | [] => .literal (.boolean constant)
  | first :: rest =>
    rest.foldl (fun joined condition => .binary operator joined (.nested condition))
      (.nested first)

mutual

def condition (naming : Naming) : Predicate → Expression
  | .and clauses => joinConditions .and true (conditions naming clauses)
  | .or clauses => joinConditions .or false (conditions naming clauses)
  | .not clause => .unary .not (.nested (condition naming clause))
  | .compare field comparison value =>
    .binary (.compare comparison) (columnOfField naming field) (constantOfCell value)
  | .between field least greatest =>
    .between (columnOfField naming field) (constantOfCell least) (constantOfCell greatest) false
  | .isNull field negated => .isNull (columnOfField naming field) negated
  | .startsWith field value =>
    .binary .like (columnOfField naming field) (.literal (.text (escapeLike value ++ "%")))
  | .contains field value =>
    .binary .like (columnOfField naming field)
      (.literal (.text ("%" ++ escapeLike value ++ "%")))

def conditions (naming : Naming) : List Predicate → List Expression
  | [] => []
  | clause :: rest => condition naming clause :: conditions naming rest

end

/-- The projection of a column under its display name. -/
def projectionOfColumn (naming : Naming) (column : PlanColumn) : Except Failure Projection := do
  let expression ←
    match column with
    | .field field => .ok (columnOfField naming field)
    | .aggregate kind source => aggregateExpression naming kind source
  return ⟨expression, some ((Capabilities.relational naming).columnName column)⟩

/-- The sort key of an order. Nulls come first when ascending and last when descending. -/
def sortKeyOfOrder (naming : Naming) (order : PlanOrder) : SortKey :=
  let ascending := order.direction == .ascending
  ⟨columnOfField naming order.field, ascending, some ascending⟩

def statementOfPlan (naming : Naming) (plan : Plan) : Except Failure Statement := do
  let source := naming.spell plan.source.name
  let projections ← plan.columns.mapM (projectionOfColumn naming)
  return {
    projections := projections
    source := ⟨source, none⟩
    joins := plan.joins.map (joinOfPlan naming source)
    filter := plan.filter.map (condition naming)
    groupBy := plan.breakout.map (columnOfField naming)
    orderBy := plan.orderBy.map (sortKeyOfOrder naming)
    limit := plan.limit
    offset := plan.offset }

end Relational

end CrossQuery
