import CrossQuery.Json

/-!
# Requests

What is asked of a database, before any name is looked up: a source table and clauses that refer
to fields by identifier.
-/

set_option autoImplicit false

namespace CrossQuery

inductive FieldRef where
  | direct (id : Int)
  /-- A field of the table that the field `key` refers to. -/
  | through (key destination : Int)
deriving DecidableEq

/-- What is computed of the rows. -/
inductive Aggregation where
  | rows
  | count
  | sum (field : FieldRef)
  | distinct (field : FieldRef)
  | average (field : FieldRef)
deriving DecidableEq

def Aggregation.source? : Aggregation → Option FieldRef
  | .rows | .count => none
  | .sum field | .distinct field | .average field => some field

inductive Direction where
  | ascending
  | descending
deriving DecidableEq

/-- One key of the order that is asked for. -/
structure OrderKey where
  field : FieldRef
  direction : Direction
deriving DecidableEq

/-- A page of results; the first page has the number 1. -/
structure Page where
  items : Nat
  page : Nat
deriving DecidableEq

inductive Comparison where
  | equal
  | notEqual
  | less
  | lessOrEqual
  | greater
  | greaterOrEqual
deriving DecidableEq

def Comparison.sign : Comparison → String
  | .equal => "="
  | .notEqual => "!="
  | .less => "<"
  | .lessOrEqual => "<="
  | .greater => ">"
  | .greaterOrEqual => ">="

/-- The condition that rows have to meet. -/
inductive Filter where
  | and (clauses : List Filter)
  | or (clauses : List Filter)
  | not (clause : Filter)
  | compare (comparison : Comparison) (field : FieldRef) (value : Json)
  | between (field : FieldRef) (least greatest : Json)
  | isNull (field : FieldRef)
  | notNull (field : FieldRef)
  | startsWith (field : FieldRef) (value : String)
  | contains (field : FieldRef) (value : String)
  /-- No condition. -/
  | all

/-- The clauses of a request. -/
structure Query where
  sourceTable : Int
  filter : Option Filter
  aggregation : Aggregation
  breakout : List FieldRef
  orderBy : List OrderKey
  /-- The fields of a request for rows; none means all of them. -/
  fields : List FieldRef
  limit : Option Nat
  page : Option Page

/-- A query of one database. -/
structure Request where
  databaseId : Int
  query : Query

end CrossQuery
