import CrossQuery.Proofs.Select.Numerals

/-!
# The tokens of a written statement

The tokens that the text of a statement is made of, put together as the text is.
-/

set_option autoImplicit false

namespace CrossQuery.Select

open Token

def Literal.tokens : Literal → List Token
  | .null => [keyword "NULL"]
  | .boolean value => [keyword (if value then "TRUE" else "FALSE")]
  | .integer value => integerTokens value.toInt
  | .float value => floatTokens value
  | .text value => [.text value]

def BinaryOperator.tokens : BinaryOperator → List Token
  | .compare comparison => [.sign (comparisonSign comparison)]
  | .and => [keyword "AND"]
  | .or => [keyword "OR"]
  | .like => [keyword "LIKE"]
  | .notLike => [keyword "NOT", keyword "LIKE"]

/-- The tokens behind the right side of an operator. -/
def BinaryOperator.escapeTokens : BinaryOperator → List Token
  | .like | .notLike => [keyword "ESCAPE", .text "\\"]
  | _ => []

/-- The tokens of the name of a type, if it has any. -/
def typeTokens (type : String) : List Token :=
  (Token.ofText? type).getD []

def enclosedTokens (tokens : List Token) : List Token :=
  .sign "(" :: (tokens ++ [.sign ")"])

def commaTokens : List (List Token) → List Token
  | [] => []
  | [only] => only
  | first :: rest => first ++ .sign "," :: commaTokens rest

namespace Expression

mutual

def tokens : Expression → List Token
  | .column none name => [.quotedName name]
  | .column (some table) name => [.quotedName table, .sign ".", .quotedName name]
  | .literal value => value.tokens
  | .binary operator left right =>
    left.tokens ++ (operator.tokens ++ (right.tokens ++ operator.escapeTokens))
  | .unary .not operand => keyword "NOT" :: operand.tokens
  | .unary .minus operand => .sign "-" :: operand.tokens
  | .aggregate name arguments distinct =>
    keyword name :: enclosedTokens
      ((if distinct then [keyword "DISTINCT"] else []) ++ commaTokens (tokensOfAll arguments))
  | .inList operand items negated =>
    operand.tokens ++ ((if negated then [keyword "NOT"] else []) ++
      (keyword "IN" :: enclosedTokens (commaTokens (tokensOfAll items))))
  | .between operand least greatest negated =>
    operand.tokens ++ ((if negated then [keyword "NOT"] else []) ++
      (keyword "BETWEEN" :: (least.tokens ++ (keyword "AND" :: greatest.tokens))))
  | .isNull operand negated =>
    operand.tokens ++
      (keyword "IS" :: ((if negated then [keyword "NOT"] else []) ++ [keyword "NULL"]))
  | .cast operand type =>
    keyword "CAST" :: enclosedTokens (operand.tokens ++ (keyword "AS" :: typeTokens type))
  | .wildcard => [.sign "*"]
  | .nested inner => enclosedTokens inner.tokens

def tokensOfAll : List Expression → List (List Token)
  | [] => []
  | first :: rest => first.tokens :: tokensOfAll rest

end

end Expression

def Projection.tokens (projection : Projection) : List Token :=
  projection.expression.tokens ++
    (match projection.givenName with
      | some name => [keyword "AS", .quotedName name]
      | none => [])

def TableName.tokens (table : TableName) : List Token :=
  .quotedName table.name :: table.givenName.toList.map .quotedName

def Join.tokens (join : Join) : List Token :=
  (match join.kind with
    | .inner => [keyword "JOIN"]
    | .left => [keyword "LEFT", keyword "JOIN"]) ++
    (join.table.tokens ++ (keyword "ON" :: join.condition.tokens))

def SortKey.tokens (key : SortKey) : List Token :=
  key.expression.tokens ++ (keyword (if key.ascending then "ASC" else "DESC") ::
    (match key.nullsFirst with
      | some true => [keyword "NULLS", keyword "FIRST"]
      | some false => [keyword "NULLS", keyword "LAST"]
      | none => []))

/-- The tokens of a clause, if it has any items. -/
def clauseTokens (title : List String) (items : List (List Token)) : List Token :=
  if items.isEmpty then [] else title.map keyword ++ commaTokens items

def countTokens (count : Nat) : List Token :=
  [.number (String.ofList (Text.writeNat count)) false]

def Statement.tokens (statement : Statement) : List Token :=
  keyword "SELECT" :: (commaTokens (statement.projections.map Projection.tokens) ++
    (keyword "FROM" :: (statement.source.tokens ++ (statement.joins.flatMap Join.tokens ++
      (clauseTokens ["WHERE"] (statement.filter.toList.map Expression.tokens) ++
        (clauseTokens ["GROUP", "BY"] (statement.groupBy.map Expression.tokens) ++
          (clauseTokens ["ORDER", "BY"] (statement.orderBy.map SortKey.tokens) ++
            (clauseTokens ["LIMIT"] (statement.limit.toList.map countTokens) ++
              clauseTokens ["OFFSET"] (statement.offset.toList.map countTokens)))))))))

end CrossQuery.Select
