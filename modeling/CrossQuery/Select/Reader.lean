import CrossQuery.Decimal.Reading
import CrossQuery.Select.Clause

/-!
# Reading statements

The statement of a text that is one supported SELECT. Everything else is refused with a cause.
-/

set_option autoImplicit false

namespace CrossQuery.Select

/-- Why a text is not a supported statement. -/
inductive ReadError where
  | notReadable
  | statementCount (count : Nat)
  | notSelect
  | withClause
  | queryBody
  | distinct
  | having
  | noSource
  | commaJoin
  | tableName (name : String)
  | tableKind
  | joinKind
  | joinConstraint
  | wildcardProjection
  | columnPath (path : String)
  | expressionKind
  | literalKind
  | numberLiteral (text : String)
  | binaryOperator (name : String)
  | unaryOperator (name : String)
  | windowFunction
  | unknownFunction (name : String)
  | argumentKind
  | argumentList (name : String)
  | argumentCount (name : String)
  | wildcardArgument (name : String)
  | escapeLength (escape : String)
  | escapeAtEnd
  | escapeWithoutText
  | groupByAll
  | notACount (text : String)
deriving DecidableEq

def ReadError.message : ReadError → String
  | .notReadable => "SQL parse error"
  | .statementCount count => "Expected 1 statement, found " ++ String.ofList (Text.writeNat count)
  | .notSelect => "Only SELECT statements are supported, got"
  | .withClause => "WITH clauses are not supported"
  | .queryBody => "Unsupported query body"
  | .distinct => "SELECT DISTINCT is not supported"
  | .having => "HAVING is not supported"
  | .noSource => "SELECT without FROM is not supported"
  | .commaJoin => "Comma joins are not supported"
  | .tableName name => "Unsupported table name: " ++ name
  | .tableKind => "Unsupported table reference"
  | .joinKind => "Unsupported join type"
  | .joinConstraint => "Only JOIN ... ON is supported"
  | .wildcardProjection => "Wildcard projections are not supported; list columns explicitly"
  | .columnPath path => "Unsupported column reference: " ++ path
  | .expressionKind => "Unsupported expression"
  | .literalKind => "Unsupported literal"
  | .numberLiteral text => "Invalid number literal: " ++ text
  | .binaryOperator name => "Unsupported binary operator: " ++ name
  | .unaryOperator name => "Unsupported unary operator: " ++ name
  | .windowFunction => "Window functions are not supported"
  | .unknownFunction name => "Unsupported function: " ++ name
  | .argumentKind => "Unsupported function argument"
  | .argumentList name => name ++ " requires an argument list"
  | .argumentCount name => name ++ " takes exactly one argument"
  | .wildcardArgument name => name ++ "(*) is not valid"
  | .escapeLength escape => "ESCAPE must be a single character, got '" ++ escape ++ "'"
  | .escapeAtEnd => "LIKE pattern ends with its escape character"
  | .escapeWithoutText => "ESCAPE requires a literal pattern"
  | .groupByAll => "GROUP BY ALL is not supported"
  | .notACount text => "Expected a non-negative integer, got " ++ text

def aggregateNames : List String :=
  ["COUNT", "SUM", "AVG", "MIN", "MAX"]

/-- A pattern in which `escape` escapes, spelled with a backslash for the escape. A backslash of
the pattern itself becomes an escaped one. -/
def respellEscape (escape : Option Char) : List Char → Except ReadError (List Char)
  | [] => .ok []
  | c :: rest =>
    if some c = escape then
      match rest with
      | [] => .error .escapeAtEnd
      | literal :: rest => do
        let spelled ← respellEscape escape rest
        .ok ('\\' :: literal :: spelled)
    else if c = '\\' then do
      let spelled ← respellEscape escape rest
      .ok ('\\' :: '\\' :: spelled)
    else do
      let spelled ← respellEscape escape rest
      .ok (c :: spelled)
termination_by text => text.length

/-- A pattern with a custom escape, spelled with a backslash for the escape. An empty escape turns
escaping off. -/
def spellWithBackslash (pattern escape : String) : Except ReadError String :=
  match escape.toList with
  | [] => String.ofList <$> respellEscape none pattern.toList
  | [c] => String.ofList <$> respellEscape (some c) pattern.toList
  | _ => .error (.escapeLength escape)

/-- The constant of a number as it is spelled: an integer if it fits 64 bits, else a float. -/
def readNumber (text : String) : Except ReadError Literal :=
  match Text.readNat? text.toList with
  | some number =>
    if number < 9223372036854775808 then .ok (.integer (Int64.ofNat number))
    else
      match Decimal.readNumeral? text with
      | some value => .ok (.float value)
      | none => .error (.numberLiteral text)
  | none =>
    match Decimal.readNumeral? text with
    | some value => .ok (.float value)
    | none => .error (.numberLiteral text)

/-- A pattern with its escape taken into account. -/
def readPattern (pattern : Expression) : Option String → Except ReadError Expression
  | none => .ok pattern
  | some escape =>
    if escape = "\\" then .ok pattern
    else
      match pattern with
      | .literal (.text text) => (fun spelled => .literal (.text spelled)) <$> spellWithBackslash text escape
      | _ => .error .escapeWithoutText

def readInfix : InfixOperator → Except ReadError BinaryOperator
  | .known operator => .ok operator
  | .other name _ => .error (.binaryOperator name)

def readPrefix : PrefixOperator → Except ReadError UnaryOperator
  | .known operator => .ok operator
  | .other name _ => .error (.unaryOperator name)

/-- A column by the parts of its name. -/
def readPath : List Identifier → Except ReadError Expression
  | [name] => .ok (.column none name.name)
  | [table, name] => .ok (.column (some table.name) name.name)
  | parts => .error (.columnPath (String.intercalate "." (parts.map Identifier.name)))

/-- The aggregate of a call, whose arguments have been read. -/
def readAggregate (name : String) (arguments : List Expression) (distinct : Bool) :
    Except ReadError Expression :=
  match arguments with
  | [.wildcard] =>
    if name = "COUNT" then .ok (.aggregate name [.wildcard] distinct)
    else .error (.wildcardArgument name)
  | [argument] => .ok (.aggregate name [argument] distinct)
  | _ => .error (.argumentCount name)

mutual

def readTree : Tree → Except ReadError Expression
  | .identifier name => .ok (.column none name.name)
  | .path parts => readPath parts
  | .number text _ => .literal <$> readNumber text
  | .text value => .ok (.literal (.text value))
  | .boolean value => .ok (.literal (.boolean value))
  | .null => .ok (.literal .null)
  | .constant _ => .error .literalKind
  | .binary operator left right => do
    let left ← readTree left
    let operator ← readInfix operator
    let right ← readTree right
    .ok (.binary operator left right)
  | .unary operator operand => do
    let operator ← readPrefix operator
    let operand ← readTree operand
    .ok (.unary operator operand)
  | .call name arguments distinct windowed => do
    let name := String.ofList (Text.upper (displayName name).toList)
    if windowed then .error .windowFunction
    else if !aggregateNames.contains name then .error (.unknownFunction name)
    else
      match arguments with
      | none => .error (.argumentList name)
      | some arguments => do
        let arguments ← readArguments arguments
        readAggregate name arguments distinct
  | .star => .error .expressionKind
  | .argument _ => .error .expressionKind
  | .inList operand items negated => do
    let operand ← readTree operand
    let items ← readTrees items
    .ok (.inList operand items negated)
  | .between operand least greatest negated => do
    let operand ← readTree operand
    let least ← readTree least
    let greatest ← readTree greatest
    .ok (.between operand least greatest negated)
  | .isNull operand negated => do
    let operand ← readTree operand
    .ok (.isNull operand negated)
  | .cast operand type _ => do
    let operand ← readTree operand
    .ok (.cast operand (String.ofList (Text.upper type.toList)))
  | .like operand pattern escape negated => do
    let pattern ← readTree pattern
    let pattern ← readPattern pattern escape
    let operand ← readTree operand
    .ok (.binary (if negated then .notLike else .like) operand pattern)
  | .nested inner => do
    let inner ← readTree inner
    .ok (.nested inner)
  | .unsupported _ => .error .expressionKind

def readTrees : List Tree → Except ReadError (List Expression)
  | [] => .ok []
  | first :: rest => do
    let first ← readTree first
    let rest ← readTrees rest
    .ok (first :: rest)

def readArguments : List Tree → Except ReadError (List Expression)
  | [] => .ok []
  | .star :: rest => do
    let rest ← readArguments rest
    .ok (.wildcard :: rest)
  | .argument _ :: _ => .error .argumentKind
  | first :: rest => do
    let first ← readTree first
    let rest ← readArguments rest
    .ok (first :: rest)

end

/-- A table, whose name may carry one qualifier. -/
def readTable : TreeTable → Except ReadError TableName
  | .named [name] givenName => .ok ⟨name.name, givenName⟩
  | .named [_, name] givenName => .ok ⟨name.name, givenName⟩
  | .named parts _ => .error (.tableName (displayName parts))
  | .other => .error .tableKind
  | .joined => .error .tableKind

def readJoin (join : TreeJoin) : Except ReadError Join := do
  match join.kind with
  | none => .error .joinKind
  | some kind =>
    match join.constraint with
    | .other => .error .joinConstraint
    | .on condition => do
      let condition ← readTree condition
      let table ← readTable join.table
      .ok ⟨kind, table, condition⟩

def readProjection : TreeProjection → Except ReadError Projection
  | .expression expression givenName => do
    let expression ← readTree expression
    .ok ⟨expression, givenName⟩
  | .star => .error .wildcardProjection

/-- A key of the order. It ascends unless it says otherwise. -/
def readKey (key : TreeKey) : Except ReadError SortKey := do
  let expression ← readTree key.expression
  .ok ⟨expression, key.ascending.getD true, key.nullsFirst⟩

/-- The number of rows of a limit or an offset. -/
def readCount : Tree → Except ReadError Nat
  | .number text _ =>
    match Text.readNat? text.toList with
    | some number => if number < 18446744073709551616 then .ok number else .error (.notACount text)
    | none => .error (.notACount text)
  | other => .error (.notACount other.display)

def readOptionalCount : Option Tree → Except ReadError (Option Nat)
  | some tree => some <$> readCount tree
  | none => .ok none

def readOptional : Option Tree → Except ReadError (Option Expression)
  | some tree => some <$> readTree tree
  | none => .ok none

def readGroups : TreeGroups → Except ReadError (List Expression)
  | .expressions expressions => readTrees expressions
  | .all => .error .groupByAll

def readSelect (select : TreeSelect) : Except ReadError Statement := do
  if select.distinct then .error .distinct
  else if select.having then .error .having
  else
    match select.sources with
    | [] => .error .noSource
    | [source] => do
      let table ← readTable source.table
      let joins ← source.joins.mapM readJoin
      let projections ← select.projections.mapM readProjection
      let filter ← readOptional select.filter
      let groupBy ← readGroups select.groups
      .ok
        { projections := projections
          source := table
          joins := joins
          filter := filter
          groupBy := groupBy
          orderBy := []
          limit := none
          offset := none }
    | _ => .error .commaJoin

def readQuery (query : TreeQuery) : Except ReadError Statement := do
  if query.hasWith then .error .withClause
  else
    match query.body with
    | .other => .error .queryBody
    | .select select => do
      let statement ← readSelect select
      let orderBy ← query.orderBy.mapM readKey
      let limit ← readOptionalCount query.limit
      let offset ← readOptionalCount query.offset
      .ok { statement with orderBy := orderBy, limit := limit, offset := offset }

/-- The statement of a text. -/
def Statement.parse (text : String) : Except ReadError Statement :=
  match readStatements? text with
  | none => .error .notReadable
  | some [.query query] => readQuery query
  | some [.other] => .error .notSelect
  | some statements => .error (.statementCount statements.length)

end CrossQuery.Select
