import CrossQuery.Catalog
import CrossQuery.Collection.Pipeline
import CrossQuery.Engine.Timeline
import CrossQuery.Relational.Selection

/-!
# Backends

What answers queries under a name: its capabilities, the catalog of its databases, and what it
does with a plan. A store is asked for a plan in a language of its own.
-/

set_option autoImplicit false

namespace CrossQuery

/-- A query in the language of a store. -/
inductive NativeQuery where
  | statement (text : String)
  | pipeline (stages : Collection.Pipeline)

def NativeQuery.text : NativeQuery → String
  | .statement text => text
  | .pipeline query =>
    "db." ++ query.collection ++ ".aggregate(" ++ (Json.array query.stages).compact ++ ")"

/-- The statement of a plan as text. -/
def NativeQuery.ofPlanForTables (naming : Naming) (plan : Plan) : Except Failure NativeQuery :=
  (Relational.statementOfPlan naming plan).map fun statement => .statement statement.write

def NativeQuery.ofPlanForDocuments (plan : Plan) : Except Failure NativeQuery :=
  (Collection.pipelineOfPlan plan).map .pipeline

/-- A backend over stores with a state. -/
structure Backend (σ : Type) where
  name : String
  capabilities : Capabilities
  catalog : Catalog
  /-- What the store is asked for a plan. -/
  native : Plan → Except Failure NativeQuery
  /-- One attempt to execute a plan. -/
  attempt : Plan → σ → Attempt σ

namespace Backend

variable {σ : Type}

/-- Add a backend to others. An earlier one of the same name is replaced. -/
def register (backends : List (Backend σ)) (backend : Backend σ) : List (Backend σ) :=
  (backends.filter fun other => other.name != backend.name) ++ [backend]

def find (backends : List (Backend σ)) (name : String) : Except Failure (Backend σ) :=
  match backends.find? fun backend => backend.name == name with
  | some backend => .ok backend
  | none => .error (.unknownReference .driver name)

end Backend

end CrossQuery
