import CrossQuery.Request

/-!
# SELECT statements

The statements that stores of tables understand: one table, joins on a condition, a filter,
groups, an order and a window.
-/

set_option autoImplicit false

namespace CrossQuery.Select

/-- A constant of a statement. -/
inductive Literal where
  | null
  | boolean (value : Bool)
  | integer (value : Int64)
  | float (value : Float)
  | text (value : String)
deriving Inhabited

inductive BinaryOperator where
  | compare (comparison : Comparison)
  | and
  | or
  /-- A pattern match in which a backslash escapes. -/
  | like
  | notLike
deriving DecidableEq

inductive UnaryOperator where
  | not
  | minus
deriving DecidableEq

inductive Expression where
  /-- A column, by its name and possibly the name of its table. -/
  | column (table : Option String) (name : String)
  | literal (value : Literal)
  | binary (operator : BinaryOperator) (left right : Expression)
  | unary (operator : UnaryOperator) (operand : Expression)
  | aggregate (name : String) (arguments : List Expression) (distinct : Bool)
  | inList (operand : Expression) (items : List Expression) (negated : Bool)
  | between (operand least greatest : Expression) (negated : Bool)
  | isNull (operand : Expression) (negated : Bool)
  /-- A conversion to the type of the given name, in upper case. -/
  | cast (operand : Expression) (type : String)
  /-- The star of `COUNT(*)`. -/
  | wildcard
  | nested (inner : Expression)
deriving Inhabited

/-- An expression of the projection, with the name it is given. -/
structure Projection where
  expression : Expression
  givenName : Option String

/-- A table, with the name it is given. -/
structure TableName where
  name : String
  givenName : Option String
deriving DecidableEq

/-- The name that qualifies the columns of a table. -/
def TableName.binding (table : TableName) : String :=
  table.givenName.getD table.name

/-- How a table is joined. -/
inductive JoinKind where
  | inner
  | left
deriving DecidableEq

structure Join where
  kind : JoinKind
  table : TableName
  condition : Expression

structure SortKey where
  expression : Expression
  ascending : Bool
  /-- Where nulls go; without a choice the store decides. -/
  nullsFirst : Option Bool

structure Statement where
  projections : List Projection
  source : TableName
  joins : List Join
  filter : Option Expression
  groupBy : List Expression
  orderBy : List SortKey
  limit : Option Nat
  offset : Option Nat

namespace Expression

mutual

/-- Whether an aggregate occurs in the expression. -/
def hasAggregate : Expression → Bool
  | .aggregate _ _ _ => true
  | .binary _ left right => left.hasAggregate || right.hasAggregate
  | .unary _ operand => operand.hasAggregate
  | .isNull operand _ => operand.hasAggregate
  | .cast operand _ => operand.hasAggregate
  | .nested inner => inner.hasAggregate
  | .inList operand items _ => operand.hasAggregate || anyHasAggregate items
  | .between operand least greatest _ =>
    operand.hasAggregate || least.hasAggregate || greatest.hasAggregate
  | .column _ _ => false
  | .literal _ => false
  | .wildcard => false

def anyHasAggregate : List Expression → Bool
  | [] => false
  | first :: rest => first.hasAggregate || anyHasAggregate rest

end

end Expression

/-- Whether a statement computes aggregates or groups rows. -/
def Statement.isAggregate (statement : Statement) : Bool :=
  !statement.groupBy.isEmpty ||
    statement.projections.any fun projection => projection.expression.hasAggregate

/-- Whether two constants are the same. Floats are compared as numbers. -/
def Literal.same : Literal → Literal → Bool
  | .null, .null => true
  | .boolean left, .boolean right => left == right
  | .integer left, .integer right => left == right
  | .float left, .float right => left == right
  | .text left, .text right => left == right
  | _, _ => false

namespace Expression

mutual

def same : Expression → Expression → Bool
  | .column table name, .column table' name' => table == table' && name == name'
  | .literal value, .literal value' => value.same value'
  | .binary operator left right, .binary operator' left' right' =>
    operator == operator' && left.same left' && right.same right'
  | .unary operator operand, .unary operator' operand' =>
    operator == operator' && operand.same operand'
  | .aggregate name arguments distinct, .aggregate name' arguments' distinct' =>
    name == name' && sameAll arguments arguments' && distinct == distinct'
  | .inList operand items negated, .inList operand' items' negated' =>
    operand.same operand' && sameAll items items' && negated == negated'
  | .between operand least greatest negated, .between operand' least' greatest' negated' =>
    operand.same operand' && least.same least' && greatest.same greatest' && negated == negated'
  | .isNull operand negated, .isNull operand' negated' =>
    operand.same operand' && negated == negated'
  | .cast operand type, .cast operand' type' => operand.same operand' && type == type'
  | .wildcard, .wildcard => true
  | .nested inner, .nested inner' => inner.same inner'
  | _, _ => false

def sameAll : List Expression → List Expression → Bool
  | [], [] => true
  | left :: leftRest, right :: rightRest => left.same right && sameAll leftRest rightRest
  | _, _ => false

end

def sameOption : Option Expression → Option Expression → Bool
  | none, none => true
  | some left, some right => left.same right
  | _, _ => false

end Expression

/-- Whether two lists agree item by item. -/
def agree {α : Type} (same : α → α → Bool) : List α → List α → Bool
  | [], [] => true
  | left :: leftRest, right :: rightRest => same left right && agree same leftRest rightRest
  | _, _ => false

def Statement.same (left right : Statement) : Bool :=
  agree (fun a b => a.expression.same b.expression && a.givenName == b.givenName)
      left.projections right.projections &&
    left.source == right.source &&
    agree (fun a b => a.kind == b.kind && a.table == b.table && a.condition.same b.condition)
      left.joins right.joins &&
    Expression.sameOption left.filter right.filter &&
    Expression.sameAll left.groupBy right.groupBy &&
    agree
      (fun a b => a.expression.same b.expression && a.ascending == b.ascending &&
        a.nullsFirst == b.nullsFirst)
      left.orderBy right.orderBy &&
    left.limit == right.limit && left.offset == right.offset

end CrossQuery.Select
