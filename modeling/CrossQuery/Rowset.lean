import CrossQuery.Cell

/-!
# Row sets

Rows with named columns, as a store keeps them in a table and returns them for a query.
-/

set_option autoImplicit false

namespace CrossQuery

/-- A column, with the name that the store has for its type. -/
structure Column where
  name : String
  type : String
deriving DecidableEq

/-- Rows with one cell for each column, unless a store returns them ragged. -/
structure Rowset where
  columns : List Column
  rows : List (List Cell)

end CrossQuery
