import CrossQuery.Relational.Database

/-!
# Scopes

Where the columns of the tables of a statement stand in its rows. The tables stand side by side,
in the order in which they were joined.
-/

set_option autoImplicit false

namespace CrossQuery.Relational

/-- A table under the name that qualifies its columns. -/
structure Binding where
  name : String
  columns : List Column

/-- The tables that a row is made of. -/
abbrev Scope := List Binding

namespace Scope

def width (scope : Scope) : Nat :=
  scope.foldl (fun cells binding => cells + binding.columns.length) 0

/-- Whether a column reference may mean a column of a table. -/
def covers (qualifier : Option String) (binding : Binding) : Bool :=
  match qualifier with
  | some table => table == binding.name
  | none => true

/-- The first column of a table with a name, and its place. -/
def position? (name : String) (columns : List Column) : Option (Column × Nat) :=
  columns.zipIdx.find? fun entry => entry.1.name == name

/-- All columns that a reference may mean, one for each table at most, with their places in the
row when the first table begins at an offset. -/
def candidates (qualifier : Option String) (name : String) : Nat → Scope → List (Column × Nat)
  | _, [] => []
  | offset, binding :: rest =>
    let others := candidates qualifier name (offset + binding.columns.length) rest
    if covers qualifier binding then
      match position? name binding.columns with
      | some (column, place) => (column, offset + place) :: others
      | none => others
    else others

/-- The one column that a reference means, and its place in the row. -/
def resolve (scope : Scope) (qualifier : Option String) (name : String) :
    Except Refusal (Column × Nat) :=
  match candidates qualifier name 0 scope with
  | [] => .error (.noColumn qualifier name)
  | [found] => .ok found
  | _ :: _ :: _ => .error (.ambiguousColumn name)

end Scope

end CrossQuery.Relational
