import CrossQuery.Relational.Evaluation

/-!
# Answering statements

The rows that a database returns for a statement: the tables are joined and filtered, the rows are
projected or grouped, and what is left is ordered and cut to the window.
-/

set_option autoImplicit false

namespace CrossQuery.Relational

namespace Scope

mutual

/-- The name of the type of an expression. -/
def typeOf (scope : Scope) : Select.Expression → Except Refusal String
  | .column table name => do
    let (column, _) ← scope.resolve table name
    return column.type
  | .aggregate "COUNT" _ _ => .ok "BIGINT"
  | .aggregate "AVG" _ _ => .ok "DOUBLE"
  | .aggregate _ arguments _ => typeOfFirst scope arguments
  | .cast _ type => .ok type
  | .literal .null => .ok "NULL"
  | .literal (.boolean _) => .ok "BOOLEAN"
  | .literal (.integer _) => .ok "BIGINT"
  | .literal (.float _) => .ok "DOUBLE"
  | .literal (.text _) => .ok "VARCHAR"
  | .nested inner => typeOf scope inner
  | .unary .minus operand => typeOf scope operand
  | .wildcard => .ok "NULL"
  | _ => .ok "BOOLEAN"

def typeOfFirst (scope : Scope) : List Select.Expression → Except Refusal String
  | [] => .ok "NULL"
  | first :: _ => typeOf scope first

end

end Scope

/-- The name that a column has without an alias. -/
def defaultName : Select.Expression → String
  | .column _ name => name
  | .aggregate name _ _ => name
  | .nested inner => defaultName inner
  | .cast operand _ => defaultName operand
  | _ => "EXPR"

def Scope.columnOf (scope : Scope) (projection : Select.Projection) : Except Refusal Column := do
  return ⟨projection.givenName.getD (defaultName projection.expression),
    ← scope.typeOf projection.expression⟩

/-- The rows on which a condition holds for certain. -/
def Scope.holding (scope : Scope) (condition : Select.Expression) :
    List (List Cell) → Except Refusal (List (List Cell))
  | [] => .ok []
  | row :: rest => do
    let truth ← scope.truth condition row
    let kept ← scope.holding condition rest
    return if truth.holds then row :: kept else kept

/-- A row filled up with nulls. -/
def padded (width : Nat) (row : List Cell) : List Cell :=
  row ++ List.replicate (width - row.length) .null

/-- The rows of a join for one row on the left. A left join keeps a row without a match. -/
def Scope.joinRow (scope : Scope) (join : Select.Join) (others : List (List Cell))
    (row : List Cell) : Except Refusal (List (List Cell)) := do
  let joined ← scope.holding join.condition (others.map fun other => row ++ other)
  return if joined.isEmpty && join.kind == .left then [padded scope.width row] else joined

/-- Tables side by side, and the rows made of them. -/
structure Joined where
  scope : Scope
  rows : List (List Cell)

def Database.join (database : Database) (joined : Joined) (join : Select.Join) :
    Except Refusal Joined := do
  let table ← database.table join.table.name
  let scope := joined.scope ++ [⟨join.table.binding, table.columns⟩]
  let rows ← joined.rows.mapM (scope.joinRow join table.rows)
  return ⟨scope, rows.flatten⟩

def Database.source (database : Database) (statement : Select.Statement) :
    Except Refusal Joined := do
  let table ← database.table statement.source.name
  statement.joins.foldlM database.join
    ⟨[⟨statement.source.binding, table.columns⟩], table.rows⟩

def Scope.filter (scope : Scope) (condition : Option Select.Expression)
    (rows : List (List Cell)) : Except Refusal (List (List Cell)) :=
  match condition with
  | none => .ok rows
  | some condition => scope.holding condition rows

/-- A row of the answer with the values that it is ordered by. -/
structure OrderedRow where
  values : List Cell
  keys : List Cell

/-- The value of a sort key that names a projected expression by its alias. -/
def projectedKey? (statement : Select.Statement) (values : List Cell) :
    Select.Expression → Option Cell
  | .column none name =>
    (statement.projections.zip values).findSome? fun entry =>
      if entry.1.givenName == some name then some entry.2 else none
  | _ => none

/-- A row of the answer, given how expressions are evaluated. -/
def orderedRow (statement : Select.Statement)
    (evaluate : Select.Expression → Except Refusal Cell) : Except Refusal OrderedRow := do
  let values ← statement.projections.mapM fun projection => evaluate projection.expression
  let keys ← statement.orderBy.mapM fun key =>
    match projectedKey? statement values key.expression with
    | some value => .ok value
    | none => evaluate key.expression
  return ⟨values, keys⟩

/-- The order of two cells under a sort key. Where nulls go does not depend on the direction. -/
def compareKey (key : Select.SortKey) (left right : Cell) : Ordering :=
  let nullsFirst := key.nullsFirst.getD key.ascending
  match left.isNull, right.isNull with
  | true, true => .eq
  | true, false => if nullsFirst then .lt else .gt
  | false, true => if nullsFirst then .gt else .lt
  | false, false => if key.ascending then left.sortCompare right else right.sortCompare left

/-- The order of two lists of cells under sort keys, of which the first that tells them apart
decides. -/
def compareKeys : List Select.SortKey → List Cell → List Cell → Ordering
  | key :: keys, left :: leftRest, right :: rightRest =>
    (compareKey key left right).then (compareKeys keys leftRest rightRest)
  | _, _, _ => .eq

/-- Rows in the order of the sort keys. Rows that tie keep their order. -/
def sortRows (keys : List Select.SortKey) (rows : List OrderedRow) : List OrderedRow :=
  rows.mergeSort fun left right => compareKeys keys left.keys right.keys != .gt

/-- The part of a list behind an offset and up to a limit. -/
def window {α : Type} (offset limit : Option Nat) (items : List α) : List α :=
  let rest := items.drop (offset.getD 0)
  match limit with
  | some limit => rest.take limit
  | none => rest

/-- The rows of the answer before they are ordered. -/
def Joined.answerRows (joined : Joined) (statement : Select.Statement)
    (rows : List (List Cell)) : Except Refusal (List OrderedRow) :=
  if statement.isAggregate then do
    let groups ← joined.scope.group statement.groupBy rows
    groups.mapM fun group =>
      orderedRow statement (group.evaluate joined.scope statement.groupBy)
  else
    rows.mapM fun row => orderedRow statement (joined.scope.evaluate row)

def Database.answer (database : Database) (statement : Select.Statement) :
    Except Refusal Rowset := do
  let joined ← database.source statement
  let rows ← joined.scope.filter statement.filter joined.rows
  let columns ← statement.projections.mapM joined.scope.columnOf
  let answer ← joined.answerRows statement rows
  let sorted := sortRows statement.orderBy answer
  return ⟨columns, (window statement.offset statement.limit sorted).map OrderedRow.values⟩

/-- The answer to a statement in text form. -/
def Database.execute (database : Database) (text : String) : Except Refusal Rowset :=
  match Select.Statement.parse text with
  | .ok statement => database.answer statement
  | .error error => .error (.malformed error)

end CrossQuery.Relational
