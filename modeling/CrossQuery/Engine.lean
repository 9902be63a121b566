import CrossQuery.Description
import CrossQuery.Engine.Backend
import CrossQuery.Plan.Compiler

/-!
# The engine

A request passes through the stages one by one: its query is compiled for the backend that its
database is bound to, executed within bounds, and its result is described and put into an
envelope. A failure names the stage that it happened in.
-/

set_option autoImplicit false

namespace CrossQuery

inductive Stage where
  | received
  | compiling
  | executing
  | normalizing
  | assembling
  | completed
  | failed
deriving DecidableEq

namespace Stage

def all : List Stage :=
  [.received, .compiling, .executing, .normalizing, .assembling, .completed, .failed]

def name : Stage → String
  | .received => "received"
  | .compiling => "compiling"
  | .executing => "executing"
  | .normalizing => "normalizing"
  | .assembling => "assembling"
  | .completed => "completed"
  | .failed => "failed"

/-- The only stage that may follow unless the query fails. -/
def next? : Stage → Option Stage
  | .received => some .compiling
  | .compiling => some .executing
  | .executing => some .normalizing
  | .normalizing => some .assembling
  | .assembling => some .completed
  | .completed | .failed => none

def isTerminal : Stage → Bool
  | .completed | .failed => true
  | _ => false

end Stage

structure EngineSettings where
  /-- The milliseconds allowed for execution, retries included. -/
  timeout : Option Nat
  maxRetries : Nat
  /-- The milliseconds before the first retry. The pause doubles each time. -/
  retryBackoff : Nat
  maxResultRows : Option Nat
deriving DecidableEq

structure Engine (σ : Type) where
  backends : List (Backend σ)
  /-- The backends of databases by name; of two for one database the first counts. -/
  bindings : List (Int × String)
  settings : EngineSettings

/-- A failure with the stage that it happened in. -/
structure StageFailure where
  stage : Stage
  failure : Failure
deriving DecidableEq

def StageFailure.message (failed : StageFailure) : String :=
  failed.stage.name ++ ": " ++ failed.failure.message

/-- The stages that a request has passed through so far. -/
structure Trail where
  visited : List Stage
deriving DecidableEq

namespace Trail

/-- The trail of a request that was received. -/
def start : Trail :=
  ⟨[.received]⟩

def current (trail : Trail) : Stage :=
  trail.visited.getLast?.getD .received

/-- Go on to a stage, if it is the one that may follow. -/
def advance (trail : Trail) (next : Stage) : Trail :=
  if trail.current.next? = some next then ⟨trail.visited ++ [next]⟩ else trail

/-- End in failure, unless the end was reached before. -/
def fail (trail : Trail) : Trail :=
  if trail.current.isTerminal then trail else ⟨trail.visited ++ [.failed]⟩

end Trail

/-- How far the processing of a request is. -/
structure Progress (σ : Type) where
  trail : Trail
  /-- The milliseconds spent on execution. -/
  elapsed : Nat
  state : σ

/-- Steps of the processing of a request. Progress is kept when a step fails. -/
abbrev Processing (σ : Type) := ExceptT StageFailure (StateM (Progress σ))

namespace Processing

variable {σ : Type}

def enter (stage : Stage) : Processing σ Unit :=
  modify fun progress => { progress with trail := progress.trail.advance stage }

/-- The result of a step in a stage. -/
def check {α : Type} (stage : Stage) (result : Except Failure α) : Processing σ α :=
  match result with
  | .ok value => pure value
  | .error failure => throw ⟨stage, failure⟩

/-- Execute within bounds and keep the time and the state of the stores. -/
def execution (run : σ → Execution σ) : Processing σ (Except Failure Rowset) := do
  let progress ← get
  let execution := run progress.state
  set { progress with elapsed := execution.elapsed, state := execution.after }
  return execution.outcome

end Processing

structure Processed (σ : Type) where
  result : Except StageFailure Envelope
  stages : List Stage
  elapsed : Nat
  after : σ

namespace Engine

variable {σ : Type}

/-- Route the requests for a database to a backend. -/
def bind (engine : Engine σ) (databaseId : Int) (backend : String) : Engine σ :=
  { engine with bindings := (databaseId, backend) :: engine.bindings }

/-- The backend that a database is bound to. -/
def backendFor (engine : Engine σ) (databaseId : Int) : Except Failure (Backend σ) :=
  match engine.bindings.lookup databaseId with
  | some name => Backend.find engine.backends name
  | none => .error (.unknownReference .database (Catalog.idText databaseId))

/-- A plan with the backend that it is made for. -/
structure Compiled (σ : Type) where
  backend : Backend σ
  plan : Plan

/-- Compile a request for the backend of its database. -/
def compile (engine : Engine σ) (request : Request) : Except Failure (Compiled σ) := do
  let backend ← engine.backendFor request.databaseId
  let plan ←
    request.query.compile backend.catalog backend.capabilities request.databaseId
      engine.settings.maxResultRows
  return ⟨backend, plan⟩

/-- What the store is asked for a request. -/
def nativeQuery (engine : Engine σ) (request : Request) : Except StageFailure NativeQuery :=
  (do
    let compiled ← engine.compile request
    compiled.backend.native compiled.plan : Except Failure NativeQuery).mapError
      (StageFailure.mk .compiling)

/-- Attempt a request once, without limits and without another attempt. -/
def attemptOnce (engine : Engine σ) (request : Request) (state : σ) : Attempt σ :=
  match engine.compile request with
  | .ok compiled => compiled.backend.attempt compiled.plan state
  | .error failure => ⟨.error failure, 0, state⟩

/-- Execute a plan within the limits of the engine. -/
def executePlan (engine : Engine σ) (cancelAt : Option Nat) (compiled : Compiled σ) :
    σ → Execution σ :=
  execute ⟨cancelAt, engine.settings.timeout⟩ (compiled.backend.attempt compiled.plan)
    engine.settings.maxRetries engine.settings.retryBackoff 0

/-- Process a request up to its envelope. -/
def drive (engine : Engine σ) (request : Request) (cancelAt : Option Nat) :
    Processing σ Envelope := do
  Processing.enter .compiling
  let compiled ← Processing.check .compiling (engine.compile request)
  Processing.enter .executing
  let outcome ← Processing.execution (engine.executePlan cancelAt compiled)
  let rowset ← Processing.check .executing outcome
  Processing.enter .normalizing
  let descriptors ←
    Processing.check .normalizing
      (compiled.plan.describe rowset.columns compiled.backend.catalog
        compiled.backend.capabilities)
  Processing.enter .assembling
  Processing.check .assembling (checkShape rowset.rows descriptors.length)
  return .assemble rowset.rows descriptors (compiled.plan.warnings.map PlanWarning.text)

/-- Process a request. The caller may cancel it at a moment of its execution. -/
def run (engine : Engine σ) (request : Request) (cancelAt : Option Nat) (state : σ) :
    Processed σ :=
  let (result, progress) := (engine.drive request cancelAt).run.run ⟨.start, 0, state⟩
  let trail :=
    match result with
    | .ok _ => progress.trail.advance .completed
    | .error _ => progress.trail.fail
  ⟨result, trail.visited, progress.elapsed, progress.state⟩

end Engine

def Processed.response {σ : Type} (processed : Processed σ) : Response :=
  .ofResult (processed.result.mapError StageFailure.failure)

end CrossQuery
