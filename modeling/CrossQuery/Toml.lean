import CrossQuery.Json

/-!
# TOML documents

Tables under construction, as the lines of a document define them: each table is defined once, by
a header, by the header of a table inside it, or by dotted keys. A finished document is a JSON
value, with one object for each table.
-/

set_option autoImplicit false

namespace CrossQuery.Toml

/-- What defined a table. -/
inductive Origin where
  | header
  /-- The header of a table inside it. -/
  | inner
  /-- A dotted key. -/
  | dotted
deriving DecidableEq

/-- What stands under a key. -/
inductive Node where
  /-- A value, which nothing can be added to. -/
  | value (value : Json)
  | table (origin : Origin) (entries : List (String × Node))
  /-- An array of tables, of which the last one is under construction. -/
  | tables (items : List (List (String × Node)))

abbrev Entries := List (String × Node)

namespace Entries

def find? (key : String) : Entries → Option Node
  | [] => none
  | (name, node) :: rest => if name = key then some node else find? key rest

/-- Entries in which something else stands under a key. -/
def put (key : String) (node : Node) : Entries → Entries
  | [] => [(key, node)]
  | (name, old) :: rest =>
    if name = key then (name, node) :: rest else (name, old) :: put key node rest

/-- Change the table at the end of a path. Tables that are not there are added; by a dotted path
no table that has a header can be reached. -/
def within (dotted : Bool) (change : Origin → Entries → Option Entries) :
    List String → Origin → Entries → Option Entries
  | [], origin, entries => change origin entries
  | key :: path, _, entries =>
    match find? key entries with
    | none => do
      let origin := if dotted then .dotted else .inner
      return put key (.table origin (← within dotted change path origin [])) entries
    | some (.value _) => none
    | some (.table origin inner) => do
      if dotted && origin == .header then none
      return put key (.table origin (← within dotted change path origin inner)) entries
    | some (.tables items) => do
      let last ← items.getLast?
      let changed ← within dotted change path .header last
      return put key (.tables (items.dropLast ++ [changed])) entries

def defineTable (path : List String) (key : String) (entries : Entries) : Option Entries :=
  within false
    (fun _ entries =>
      match find? key entries with
      | none => some (put key (.table .header []) entries)
      | some (.table .inner inner) => some (put key (.table .header inner) entries)
      | some _ => none)
    path .header entries

/-- The header of a table in an array of tables. -/
def defineItem (path : List String) (key : String) (entries : Entries) : Option Entries :=
  within false
    (fun _ entries =>
      match find? key entries with
      | none => some (put key (.tables [[]]) entries)
      | some (.tables items) => some (put key (.tables (items ++ [[]])) entries)
      | some _ => none)
    path .header entries

/-- A value under a dotted key of a table. A dotted key adds to tables of dotted keys only. -/
def defineValue (path : List String) (key : String) (value : Json) (origin : Origin)
    (entries : Entries) : Option Entries :=
  within true
    (fun origin entries =>
      if (origin == .dotted) == path.isEmpty then none
      else
        match find? key entries with
        | none => some (put key (.value value) entries)
        | some _ => none)
    path origin entries

end Entries

mutual

/-- What stands under a key, as JSON. -/
def Node.toJson : Node → Json
  | .value value => value
  | .table _ entries => .object (entriesToJson entries)
  | .tables items => .array (itemsToJson items)

def entriesToJson : List (String × Node) → List (String × Json)
  | [] => []
  | (key, node) :: rest => (key, node.toJson) :: entriesToJson rest

def itemsToJson : List (List (String × Node)) → List Json
  | [] => []
  | entries :: rest => .object (entriesToJson entries) :: itemsToJson rest

end

end CrossQuery.Toml
