import CrossQuery.Catalog
import CrossQuery.Cell
import CrossQuery.Request

/-!
# Plans

A query whose every reference has been looked up, in terms that hold for all kinds of stores.
-/

set_option autoImplicit false

namespace CrossQuery

/-- The name under which a table is addressed when it is reached through a foreign key. -/
def joinAlias (table key : String) : String :=
  table ++ "__via__" ++ key

/-- A field with its table, and the foreign key through which the table is reached. -/
structure PlanField where
  field : Field
  table : Table
  via : Option Field
deriving DecidableEq

namespace PlanField

def direct (field : Field) (table : Table) : PlanField :=
  ⟨field, table, none⟩

/-- Whether the field is reached through a foreign key. -/
def isJoined (field : PlanField) : Bool :=
  field.via.isSome

/-- The name of the table that the field is read from. -/
def tableAlias (field : PlanField) : String :=
  match field.via with
  | some key => joinAlias field.table.name key.name
  | none => field.table.name

/-- Whether two fields are the same one, reached the same way. -/
def sameAs (left right : PlanField) : Bool :=
  left.field.id == right.field.id && left.via.map Field.id == right.via.map Field.id

end PlanField

/-- A table that is joined where its primary key equals a foreign key of the source. -/
structure PlanJoin where
  key : Field
  target : Table
  targetKey : Field
deriving DecidableEq

/-- The name under which the joined table is addressed. -/
def PlanJoin.tableAlias (join : PlanJoin) : String :=
  joinAlias join.target.name join.key.name

/-- What an aggregate computes. -/
inductive AggregateKind where
  | count
  | sum
  | distinct
  | average
deriving DecidableEq

def AggregateKind.columnName : AggregateKind → String
  | .count | .distinct => "count"
  | .sum => "sum"
  | .average => "avg"

inductive PlanColumn where
  | field (field : PlanField)
  | aggregate (kind : AggregateKind) (source : Option PlanField)
deriving DecidableEq

def PlanColumn.isAggregate : PlanColumn → Bool
  | .aggregate _ _ => true
  | .field _ => false

/-- A key of the order of the result. -/
structure PlanOrder where
  field : PlanField
  direction : Direction
deriving DecidableEq

/-- The condition on rows. -/
inductive Predicate where
  | and (clauses : List Predicate)
  | or (clauses : List Predicate)
  | not (clause : Predicate)
  | compare (field : PlanField) (comparison : Comparison) (value : Cell)
  | between (field : PlanField) (least greatest : Cell)
  | isNull (field : PlanField) (negated : Bool)
  | startsWith (field : PlanField) (value : String)
  | contains (field : PlanField) (value : String)

/-- What a caller should know about a plan that is valid all the same. -/
inductive PlanWarning where
  /-- Pages without an order may overlap. -/
  | unorderedPages
deriving DecidableEq

def PlanWarning.text : PlanWarning → String
  | .unorderedPages =>
    "page requested without order_by; repeated calls may return inconsistent pages"

structure Plan where
  databaseId : Int
  source : Table
  /-- The tables that are joined, in the order of their first use. -/
  joins : List PlanJoin
  columns : List PlanColumn
  filter : Option Predicate
  breakout : List PlanField
  orderBy : List PlanOrder
  limit : Option Nat
  offset : Option Nat
  warnings : List PlanWarning

namespace Plan

def isAggregated (plan : Plan) : Bool :=
  plan.columns.any PlanColumn.isAggregate

def aggregate? (plan : Plan) : Option (AggregateKind × Option PlanField) :=
  plan.columns.findSome? fun column =>
    match column with
    | .aggregate kind source => some (kind, source)
    | .field _ => none

end Plan

end CrossQuery
