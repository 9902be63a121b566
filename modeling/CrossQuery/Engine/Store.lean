import CrossQuery.Engine.Backend
import CrossQuery.Relational.Answer

/-!
# Embedded stores in use

The part of the stores that a query changes: the sessions in use, connections that are still to be
refused, and the latency of statements; and the backends that answer from stores in memory or from
a script.
-/

set_option autoImplicit false

namespace CrossQuery

/-- The number of sessions that are in use. -/
structure Sessions where
  inUse : Nat
deriving DecidableEq

namespace Sessions

def none : Sessions :=
  ⟨0⟩

def begin (sessions : Sessions) : Sessions :=
  ⟨sessions.inUse + 1⟩

def finish (sessions : Sessions) : Sessions :=
  ⟨sessions.inUse - 1⟩

end Sessions

structure StoreState where
  sessions : Sessions
  /-- The number of connections that are still to be refused. -/
  refusals : Nat
  /-- How long a statement takes. -/
  latency : Nat
deriving DecidableEq

namespace StoreState

/-- A store without sessions that works at once. -/
def idle : StoreState :=
  ⟨.none, 0, 0⟩

def connected (state : StoreState) : StoreState :=
  { state with sessions := state.sessions.begin }

def released (state : StoreState) : StoreState :=
  { state with sessions := state.sessions.finish }

/-- An attempt to have a statement answered in a session of its own, unless the connection is
refused. -/
def attempt (refusal : Failure) (answer : Except Failure Rowset) (state : StoreState) :
    Attempt StoreState :=
  match state.refusals with
  | refusals + 1 => ⟨.error refusal, 0, { state with refusals := refusals }⟩
  | 0 => ⟨answer, state.latency, state.connected.released⟩

theorem attempt_sessions (refusal : Failure) (answer : Except Failure Rowset)
    (state : StoreState) :
    (state.attempt refusal answer).after.sessions = state.sessions := by
  unfold attempt
  split <;> rfl

end StoreState

/-- The states of stores and scripts under their names. -/
structure Site where
  stores : List (String × StoreState)
  /-- How many entries of a script have been used. -/
  scripts : List (String × Nat)

namespace Site

/-- A site where nothing has happened yet. -/
def initial : Site :=
  ⟨[], []⟩

def store (site : Site) (name : String) : StoreState :=
  (site.stores.lookup name).getD .idle

def setStore (site : Site) (name : String) (state : StoreState) : Site :=
  { site with stores := (name, state) :: site.stores.filter fun entry => entry.1 != name }

/-- How many entries of a script have been used. -/
def used (site : Site) (name : String) : Nat :=
  (site.scripts.lookup name).getD 0

/-- Use one more entry of a script. -/
def useNext (site : Site) (name : String) : Site :=
  { site with
    scripts :=
      (name, site.used name + 1) :: site.scripts.filter fun entry => entry.1 != name }

/-- An attempt at one store of the site. -/
def attempt (site : Site) (name : String) (refusal : Failure) (answer : Except Failure Rowset) :
    Attempt Site :=
  let made := (site.store name).attempt refusal answer
  ⟨made.outcome, made.duration, site.setStore name made.after⟩

end Site

/-- The failure of a connection to a database in memory. -/
def databaseRefusal : Failure :=
  .connection "connection refused by embedded database"

/-- The failure of a connection to a store of documents in memory. -/
def documentsRefusal : Failure :=
  .connection "connection refused by embedded document store"

/-- The answer of a database to a plan, by way of the text of a statement. -/
def Relational.Database.answerPlan (database : Relational.Database) (naming : Naming) (plan : Plan) :
    Except Failure (Except Failure Rowset) := do
  let statement ← Relational.statementOfPlan naming plan
  return (database.execute statement.write).mapError Relational.Refusal.failure

/-- The answer of a store of documents to a plan. -/
def Collection.Store.answerPlan (store : Collection.Store) (plan : Plan) :
    Except Failure (Except Failure Rowset) := do
  let pipeline ← Collection.pipelineOfPlan plan
  let keys ← plan.columns.mapM Collection.outputKey
  let names := plan.columns.map Capabilities.document.columnName
  return (store.aggregate pipeline.collection pipeline.stages).mapError
    Collection.Refusal.failure |>.map (Collection.rowsetOfDocuments plan keys names)

/-- An attempt with an answer, or with the failure to express the plan, which needs no store. -/
def attemptAnswer (name : String) (refusal : Failure)
    (answer : Except Failure (Except Failure Rowset)) (site : Site) : Attempt Site :=
  match answer with
  | .ok answer => site.attempt name refusal answer
  | .error failure => ⟨.error failure, 0, site⟩

namespace Backend

/-- A backend over a database in memory. -/
def tables (name : String) (naming : Naming) (store : String) (database : Relational.Database)
    (catalog : Catalog) : Backend Site :=
  { name := name
    capabilities := .relational naming
    catalog := catalog
    native := NativeQuery.ofPlanForTables naming
    attempt := fun plan => attemptAnswer store databaseRefusal (database.answerPlan naming plan) }

/-- A backend over a store of documents in memory. -/
def documents (name store : String) (documents : Collection.Store) (catalog : Catalog) :
    Backend Site :=
  { name := name
    capabilities := .document
    catalog := catalog
    native := NativeQuery.ofPlanForDocuments
    attempt := fun plan => attemptAnswer store documentsRefusal (documents.answerPlan plan) }

/-- A backend that answers whatever is asked with the entries of a script, one after the other. -/
def scripted (name : String) (capabilities : Capabilities)
    (script : List (Except Failure Rowset)) (catalog : Catalog) : Backend Site :=
  { name := name
    capabilities := capabilities
    catalog := catalog
    native := fun _ => .ok (.statement ("scripted " ++ name))
    attempt := fun _ site =>
      ⟨(script[site.used name]?).getD (.error (.execution "script exhausted")), 0,
        site.useNext name⟩ }

end Backend

end CrossQuery
