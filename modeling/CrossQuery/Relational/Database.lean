import CrossQuery.Failure
import CrossQuery.Rowset
import CrossQuery.Select.Reader

/-!
# Databases

Tables kept in memory under their names, and the causes for which a database refuses what it is
asked to do.
-/

set_option autoImplicit false

namespace CrossQuery.Relational

/-- Why a database refuses a statement or a row. -/
inductive Refusal where
  | malformed (error : Select.ReadError)
  | noTable (name : String)
  /-- A row has another number of cells than its table has columns. -/
  | rowWidth (table : String) (expected found : Nat)
  | noColumn (table : Option String) (name : String)
  | ambiguousColumn (name : String)
  | incomparable (left right : Cell)
  | notTruth (cell : Cell)
  | notPattern
  | notNegatable (cell : Cell)
  | outOfRange
  | notSummable (cell : Cell)
  | notConvertible (cell : Cell)
  | noType (name : String)
  | noFunction (name : String)
  | noArgument (function : String)
  /-- An aggregate stands where rows are not grouped. -/
  | aggregateMisplaced (name : String)
  | wildcardMisplaced
  /-- A column is neither grouped by nor aggregated. -/
  | notGrouped (column : String)
  | notForGroups

/-- The name of a column, with its table if that is given. -/
def columnText (table : Option String) (name : String) : String :=
  match table with
  | some table => table ++ "." ++ name
  | none => name

def Refusal.message : Refusal → String
  | .malformed error => "Syntax error in SQL statement: " ++ error.message
  | .noTable name => "Table \"" ++ name ++ "\" not found"
  | .rowWidth table expected found =>
    "Column count does not match: table \"" ++ table ++ "\" has " ++
      String.ofList (Text.writeNat expected) ++ " columns, row has " ++
      String.ofList (Text.writeNat found)
  | .noColumn table name => "Column \"" ++ columnText table name ++ "\" not found"
  | .ambiguousColumn name => "Ambiguous column name \"" ++ name ++ "\""
  | .incomparable left right => "Cannot compare " ++ left.display ++ " with " ++ right.display
  | .notTruth cell => "Expected a boolean, found " ++ cell.display
  | .notPattern => "LIKE pattern must be a string"
  | .notNegatable cell => "Cannot negate " ++ cell.display
  | .outOfRange => "Numeric value out of range"
  | .notSummable cell => "SUM requires numbers, found " ++ cell.display
  | .notConvertible cell => "Data conversion error converting \"" ++ cell.display ++ "\""
  | .noType name => "Unknown data type: \"" ++ name ++ "\""
  | .noFunction name => "Function \"" ++ name ++ "\" not found"
  | .noArgument function => function ++ " requires an argument"
  | .aggregateMisplaced name => "Aggregate function " ++ name ++ " not allowed here"
  | .wildcardMisplaced => "Wildcard not allowed here"
  | .notGrouped column => "Column \"" ++ column ++ "\" must be in the GROUP BY list"
  | .notForGroups => "Expression not supported in an aggregate query"

def Refusal.failure (refusal : Refusal) : Failure :=
  .execution refusal.message

/-- The tables of a database under their names. -/
structure Database where
  tables : List (String × Rowset)

namespace Database

def empty : Database :=
  ⟨[]⟩

/-- Add an empty table. An earlier one of the same name is lost. -/
def createTable (database : Database) (name : String) (columns : List Column) : Database :=
  ⟨(database.tables.filter fun entry => entry.1 != name) ++ [(name, ⟨columns, []⟩)]⟩

def table (database : Database) (name : String) : Except Refusal Rowset :=
  match database.tables.lookup name with
  | some table => .ok table
  | none => .error (.noTable name)

def insert (database : Database) (name : String) (row : List Cell) : Except Refusal Database := do
  let table ← database.table name
  if row.length = table.columns.length then
    .ok
      ⟨database.tables.map fun entry =>
        if entry.1 = name then (name, ⟨entry.2.columns, entry.2.rows ++ [row]⟩) else entry⟩
  else
    .error (.rowWidth name table.columns.length row.length)

def insertAll (database : Database) (name : String) (rows : List (List Cell)) :
    Except Refusal Database :=
  rows.foldlM (fun database row => database.insert name row) database

/-- The names of the tables in ascending order. -/
def tableNames (database : Database) : List String :=
  (database.tables.map Prod.fst).mergeSort fun left right => decide (left ≤ right)

end Database

end CrossQuery.Relational
