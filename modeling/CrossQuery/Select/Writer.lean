import CrossQuery.Decimal.Notation
import CrossQuery.Select.Statement

/-!
# Writing statements

The text of a statement. Every identifier is quoted, so that it keeps its letter case; parentheses
are written only where the statement has them.
-/

set_option autoImplicit false

namespace CrossQuery.Select

/-- A text with every occurrence of a quote doubled. -/
def doubled (quote : Char) : List Char → List Char
  | [] => []
  | c :: rest => if c = quote then quote :: quote :: doubled quote rest else c :: doubled quote rest

/-- A text between quotes, with the quotes inside it doubled. -/
def enclosed (quote : Char) (text : String) : List Char :=
  quote :: (doubled quote text.toList ++ [quote])

def quoteIdentifier (name : String) : String :=
  String.ofList (enclosed '"' name)

/-- The pattern that matches a text literally: percent signs, underscores and backslashes are
escaped by a backslash. -/
def escapeLikeChars : List Char → List Char
  | [] => []
  | c :: rest =>
    if c = '%' ∨ c = '_' ∨ c = '\\' then '\\' :: c :: escapeLikeChars rest
    else c :: escapeLikeChars rest

/-- The pattern that matches a text literally. -/
def escapeLike (text : String) : String :=
  String.ofList (escapeLikeChars text.toList)

def Literal.write : Literal → String
  | .null => "NULL"
  | .boolean value => if value then "TRUE" else "FALSE"
  | .integer value => String.ofList (Text.writeInt value.toInt)
  | .float value => Decimal.Notation.literal.floatText value
  | .text value => String.ofList (enclosed '\'' value)

/-- The sign of a comparison in a statement. -/
def comparisonSign : Comparison → String
  | .equal => "="
  | .notEqual => "<>"
  | .less => "<"
  | .lessOrEqual => "<="
  | .greater => ">"
  | .greaterOrEqual => ">="

def BinaryOperator.write : BinaryOperator → String
  | .compare comparison => comparisonSign comparison
  | .and => "AND"
  | .or => "OR"
  | .like => "LIKE"
  | .notLike => "NOT LIKE"

/-- What follows the right side of an operator: patterns name their escape character. -/
def BinaryOperator.writeEscape : BinaryOperator → String
  | .like | .notLike => " ESCAPE '\\'"
  | _ => ""

namespace Expression

mutual

def write : Expression → String
  | .column none name => quoteIdentifier name
  | .column (some table) name => quoteIdentifier table ++ "." ++ quoteIdentifier name
  | .literal value => value.write
  | .binary operator left right =>
    left.write ++ " " ++ operator.write ++ " " ++ right.write ++ operator.writeEscape
  | .unary .not operand => "NOT " ++ operand.write
  | .unary .minus operand => "-" ++ operand.write
  | .aggregate name arguments distinct =>
    name ++ "(" ++ (if distinct then "DISTINCT " else "") ++ writeAll arguments ++ ")"
  | .inList operand items negated =>
    operand.write ++ (if negated then " NOT IN (" else " IN (") ++ writeAll items ++ ")"
  | .between operand least greatest negated =>
    operand.write ++ (if negated then " NOT BETWEEN " else " BETWEEN ") ++ least.write ++ " AND " ++
      greatest.write
  | .isNull operand negated => operand.write ++ (if negated then " IS NOT NULL" else " IS NULL")
  | .cast operand type => "CAST(" ++ operand.write ++ " AS " ++ type ++ ")"
  | .wildcard => "*"
  | .nested inner => "(" ++ inner.write ++ ")"

def writeAll : List Expression → String
  | [] => ""
  | [only] => only.write
  | first :: rest => first.write ++ ", " ++ writeAll rest

end

end Expression

def Projection.write (projection : Projection) : String :=
  match projection.givenName with
  | some name => projection.expression.write ++ " AS " ++ quoteIdentifier name
  | none => projection.expression.write

def TableName.write (table : TableName) : String :=
  match table.givenName with
  | some name => quoteIdentifier table.name ++ " " ++ quoteIdentifier name
  | none => quoteIdentifier table.name

def Join.write (join : Join) : String :=
  (match join.kind with
    | .inner => "JOIN "
    | .left => "LEFT JOIN ") ++ join.table.write ++ " ON " ++ join.condition.write

def SortKey.write (key : SortKey) : String :=
  key.expression.write ++ (if key.ascending then " ASC" else " DESC") ++
    (match key.nullsFirst with
      | some true => " NULLS FIRST"
      | some false => " NULLS LAST"
      | none => "")

def commaList (texts : List String) : String :=
  String.intercalate ", " texts

/-- A clause of a statement after a blank, or nothing if it is empty. -/
def clause (title : String) (texts : List String) : String :=
  if texts.isEmpty then "" else " " ++ title ++ " " ++ commaList texts

/-- The text of a statement. Without projections it asks for every column. -/
def Statement.write (statement : Statement) : String :=
  "SELECT " ++
    (if statement.projections.isEmpty then "*"
      else commaList (statement.projections.map Projection.write)) ++
    " FROM " ++ statement.source.write ++
    String.join (statement.joins.map fun join => " " ++ join.write) ++
    clause "WHERE" (statement.filter.toList.map Expression.write) ++
    clause "GROUP BY" (statement.groupBy.map Expression.write) ++
    clause "ORDER BY" (statement.orderBy.map SortKey.write) ++
    clause "LIMIT" (statement.limit.toList.map fun count => String.ofList (Text.writeNat count)) ++
    clause "OFFSET" (statement.offset.toList.map fun count => String.ofList (Text.writeNat count))

end CrossQuery.Select
