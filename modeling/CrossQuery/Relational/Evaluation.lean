import CrossQuery.Grouping
import CrossQuery.Relational.Operation
import CrossQuery.Relational.Scope

/-!
# Evaluating expressions

The value of an expression on a row, and on a group of rows.
-/

set_option autoImplicit false

namespace CrossQuery.Relational

def cellOfLiteral : Select.Literal → Cell
  | .null => .null
  | .boolean value => .bool value
  | .integer value => .int64 value
  | .float value => .float64 value
  | .text value => .text value

namespace Scope

mutual

def evaluate (scope : Scope) (row : List Cell) : Select.Expression → Except Refusal Cell
  | .column table name => do
    let (_, place) ← scope.resolve table name
    return row.getD place .null
  | .literal value => .ok (cellOfLiteral value)
  | .binary operator left right => do
    let left ← evaluate scope row left
    let right ← evaluate scope row right
    return cellOfTruth (← operate operator left right)
  | .unary operator operand => do
    operateUnary operator (← evaluate scope row operand)
  | .inList operand items negated => do
    let operand ← evaluate scope row operand
    let items ← evaluateAll scope row items
    let truth := memberTruth operand items
    return cellOfTruth (if negated then truth.not else truth)
  | .between operand least greatest negated => do
    let operand ← evaluate scope row operand
    let least ← evaluate scope row least
    let greatest ← evaluate scope row greatest
    return cellOfTruth (← betweenTruth operand least greatest negated)
  | .isNull operand negated => do
    let operand ← evaluate scope row operand
    return .bool (operand.isNull != negated)
  | .cast operand type => do
    convert (← evaluate scope row operand) type
  | .nested inner => evaluate scope row inner
  | .aggregate name _ _ => .error (.aggregateMisplaced name)
  | .wildcard => .error .wildcardMisplaced

def evaluateAll (scope : Scope) (row : List Cell) :
    List Select.Expression → Except Refusal (List Cell)
  | [] => .ok []
  | first :: rest => do
    let value ← evaluate scope row first
    let values ← evaluateAll scope row rest
    return value :: values

end

/-- The truth value of a condition on a row. -/
def truth (scope : Scope) (condition : Select.Expression) (row : List Cell) :
    Except Refusal Truth := do
  truthOfCell (← scope.evaluate row condition)

end Scope

/-- The rows that share the values of the grouping expressions, and those values. -/
structure Group where
  keys : List Cell
  rows : List (List Cell)

/-- The sum of integers that must fit 64 bits at every step. -/
def sumIntegers : Int → List Int → Except Refusal Int
  | total, [] => .ok total
  | total, value :: rest =>
    if Cell.fitsInt64 (total + value) then sumIntegers (total + value) rest
    else .error .outOfRange

def sumFloats : Float → List Cell → Except Refusal Float
  | total, [] => .ok total
  | total, cell :: rest =>
    match cell.number? with
    | some value => sumFloats (total + value) rest
    | none => .error (.notSummable cell)

/-- The integers of cells that all are integers. -/
def integers? (cells : List Cell) : Option (List Int) :=
  cells.mapM Cell.integer?

/-- The sum of cells: of integers exactly, of other numbers as floats, and null without any. -/
def sum (cells : List Cell) : Except Refusal Cell :=
  if cells.isEmpty then .ok .null
  else
    match integers? cells with
    | some values => do return .int64 (Int64.ofInt (← sumIntegers 0 values))
    | none => do return .float64 (← sumFloats 0 cells)

/-- The mean of cells, which is null without any. -/
def average (cells : List Cell) : Except Refusal Cell := do
  match (← sum cells).number? with
  | some total => return .float64 (total / Float.ofNat cells.length)
  | none => return .null

/-- The first cell that no other one precedes in the wanted direction. -/
def extreme (wanted : Ordering) : List Cell → Cell
  | [] => .null
  | first :: rest =>
    rest.foldl (fun best cell => if cell.sortCompare best == wanted then cell else best) first

/-- The value of an aggregate of cells that are not null. -/
def summarise (name : String) (cells : List Cell) : Except Refusal Cell :=
  match name with
  | "COUNT" => .ok (.int64 (Int64.ofNat cells.length))
  | "SUM" => sum cells
  | "AVG" => average cells
  | "MIN" => .ok (extreme .lt cells)
  | "MAX" => .ok (extreme .gt cells)
  | other => .error (.noFunction other)

/-- The value of an aggregate on a group. Nulls do not count. -/
def Group.aggregate (scope : Scope) (group : Group) (name : String)
    (arguments : List Select.Expression) (distinct : Bool) : Except Refusal Cell :=
  match arguments with
  | [] => .error (.noArgument name)
  | argument :: _ =>
    if name = "COUNT" ∧ argument.same .wildcard = true then
      .ok (.int64 (Int64.ofNat group.rows.length))
    else do
      let values ← group.rows.mapM fun row => scope.evaluate row argument
      let cells := values.filter fun cell => !cell.isNull
      summarise name (if distinct then Grouping.firsts Cell.groupKey cells else cells)

/-- The value that an expression has because rows are grouped by it. -/
def Group.keyOf? (group : Group) (groupBy : List Select.Expression)
    (expression : Select.Expression) : Option Cell :=
  (groupBy.zip group.keys).findSome? fun entry =>
    if entry.1.same expression then some entry.2 else none

/-- The value that an expression has because rows are grouped by it, or else another one. -/
def Group.keyOr (group : Group) (groupBy : List Select.Expression)
    (expression : Select.Expression) (otherwise : Except Refusal Cell) : Except Refusal Cell :=
  match group.keyOf? groupBy expression with
  | some key => .ok key
  | none => otherwise

def Group.evaluate (scope : Scope) (groupBy : List Select.Expression) (group : Group) :
    Select.Expression → Except Refusal Cell
  | .aggregate name arguments distinct =>
    group.keyOr groupBy (.aggregate name arguments distinct)
      (group.aggregate scope name arguments distinct)
  | .literal value => group.keyOr groupBy (.literal value) (.ok (cellOfLiteral value))
  | .nested inner =>
    group.keyOr groupBy (.nested inner) (Group.evaluate scope groupBy group inner)
  | .cast operand type =>
    group.keyOr groupBy (.cast operand type) do
      convert (← Group.evaluate scope groupBy group operand) type
  | .binary operator left right =>
    group.keyOr groupBy (.binary operator left right) do
      let left ← Group.evaluate scope groupBy group left
      let right ← Group.evaluate scope groupBy group right
      return cellOfTruth (← operate operator left right)
  | .unary operator operand =>
    group.keyOr groupBy (.unary operator operand) do
      operateUnary operator (← Group.evaluate scope groupBy group operand)
  | .column table name =>
    group.keyOr groupBy (.column table name) (.error (.notGrouped name))
  | expression => group.keyOr groupBy expression (.error .notForGroups)

/-- Rows with the values of the grouping expressions on them. -/
def Scope.keyed (scope : Scope) (groupBy : List Select.Expression) (rows : List (List Cell)) :
    Except Refusal (List (List Cell × List Cell)) :=
  rows.mapM fun row => do return (← scope.evaluateAll row groupBy, row)

/-- The groups of rows. Without grouping expressions all rows are one group, if there are any or
not. -/
def Scope.group (scope : Scope) (groupBy : List Select.Expression) (rows : List (List Cell)) :
    Except Refusal (List Group) :=
  if groupBy.isEmpty then .ok [⟨[], rows⟩]
  else do
    let keyed ← scope.keyed groupBy rows
    return (Grouping.groups (fun entry => entry.1.map Cell.groupKey) keyed).map fun group =>
      ⟨group.1.1, group.2.map Prod.snd⟩

end CrossQuery.Relational
