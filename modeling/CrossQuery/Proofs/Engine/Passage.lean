import CrossQuery.Engine
import CrossQuery.Proofs.Engine.Attempts
import CrossQuery.Proofs.Outcome

/-!
# The passage of a request

A request passes through the stages in order, to the end or to the stage that it fails in. What is
delivered at the end is the answer of one attempt, whole and in the shape of the plan.
-/

set_option autoImplicit false

namespace CrossQuery

namespace Stage

/-- The stages of a request that is completed, in order. -/
def path : List Stage :=
  [.received, .compiling, .executing, .normalizing, .assembling, .completed]

/-- The stages up to one, which is the last of them. -/
def upTo (stage : Stage) : List Stage :=
  path.takeWhile (· ≠ stage) ++ [stage]

theorem getLast?_upTo (stage : Stage) : stage.upTo.getLast? = some stage :=
  List.getLast?_concat

theorem upTo_of_next? {stage next : Stage} (follows : stage.next? = some next) :
    next.upTo = stage.upTo ++ [next] := by
  cases stage <;> cases follows <;> rfl

/-- The stages in which something is done for a request. -/
def working : List Stage :=
  [.compiling, .executing, .normalizing, .assembling]

theorem upTo_prefix_path {stage : Stage} (works : stage ∈ working) : stage.upTo <+: path := by
  revert stage
  decide

theorem not_isTerminal {stage : Stage} (works : stage ∈ working) : stage.isTerminal = false := by
  revert stage
  decide

end Stage

namespace Trail

theorem advance_of_next? {trail : Trail} {stage next : Stage} (visited : trail.visited = stage.upTo)
    (follows : stage.next? = some next) : (trail.advance next).visited = next.upTo := by
  have current : trail.current = stage := by
    rw [Trail.current, visited, Stage.getLast?_upTo]
    rfl
  rw [Trail.advance, current, if_pos follows, visited, Stage.upTo_of_next? follows]

theorem fail_of_working {trail : Trail} {stage : Stage} (visited : trail.visited = stage.upTo)
    (works : stage ∈ Stage.working) : trail.fail.visited = stage.upTo ++ [.failed] := by
  have current : trail.current = stage := by
    rw [Trail.current, visited, Stage.getLast?_upTo]
    rfl
  rw [Trail.fail, current, Stage.not_isTerminal works, visited]
  rfl

end Trail

namespace Processing

variable {σ α β : Type}

/-- Steps that lead from one stage to another, unless they fail in a stage that the trail ends
with. -/
def Leads (steps : Processing σ α) (start finish : Stage) : Prop :=
  ∀ progress : Progress σ, progress.trail.visited = start.upTo →
    match steps.run.run progress with
    | (.ok _, after) => after.trail.visited = finish.upTo
    | (.error failed, after) =>
      failed.stage ∈ Stage.working ∧ after.trail.visited = failed.stage.upTo

theorem leads_pure (value : α) (stage : Stage) :
    Leads (pure value : Processing σ α) stage stage :=
  fun _ visited => visited

theorem run_bind_of_ok {steps : Processing σ α} {progress after : Progress σ} {value : α}
    (ran : steps.run.run progress = (.ok value, after)) (next : α → Processing σ β) :
    (steps >>= next).run.run progress = (next value).run.run after := by
  rw [ExceptT.run_bind, StateT.run_bind, ran]
  rfl

theorem run_bind_of_error {steps : Processing σ α} {progress after : Progress σ}
    {failed : StageFailure} (ran : steps.run.run progress = (.error failed, after))
    (next : α → Processing σ β) :
    (steps >>= next).run.run progress = (.error failed, after) := by
  rw [ExceptT.run_bind, StateT.run_bind, ran]
  rfl

theorem run_enter_bind (stage : Stage) (next : Unit → Processing σ β) (progress : Progress σ) :
    (enter stage >>= next).run.run progress =
      (next ()).run.run { progress with trail := progress.trail.advance stage } :=
  rfl

theorem run_check_ok_bind (stage : Stage) (value : α) (next : α → Processing σ β)
    (progress : Progress σ) :
    (check stage (.ok value) >>= next).run.run progress = (next value).run.run progress :=
  rfl

theorem run_execution_bind (run : σ → Execution σ)
    (next : Except Failure Rowset → Processing σ β) (progress : Progress σ) :
    (execution run >>= next).run.run progress =
      (next (run progress.state).outcome).run.run
        { progress with
          elapsed := (run progress.state).elapsed
          state := (run progress.state).after } :=
  rfl

theorem Leads.bind {steps : Processing σ α} {next : α → Processing σ β}
    {start middle finish : Stage} (first : Leads steps start middle)
    (second : ∀ value, Leads (next value) middle finish) :
    Leads (steps >>= next) start finish := by
  intro progress visited
  have led := first progress visited
  cases ran : steps.run.run progress with
  | mk result after =>
      rw [ran] at led
      cases result with
      | ok value =>
          rw [run_bind_of_ok ran]
          exact second value after led
      | error failed =>
          rw [run_bind_of_error ran]
          exact led

theorem leads_enter {stage next : Stage} (follows : stage.next? = some next) :
    Leads (enter next : Processing σ Unit) stage next :=
  fun _ visited => Trail.advance_of_next? visited follows

theorem leads_check {stage : Stage} (works : stage ∈ Stage.working) (result : Except Failure α) :
    Leads (check stage result : Processing σ α) stage stage := by
  intro progress visited
  cases result with
  | ok value => exact visited
  | error failure => exact ⟨works, visited⟩

theorem leads_execution (run : σ → Execution σ) (stage : Stage) :
    Leads (execution run) stage stage :=
  fun _ visited => visited

end Processing

theorem checkShape_eq_ok_iff {rows : List (List Cell)} {width : Nat} :
    checkShape rows width = .ok () ↔ ∀ row ∈ rows, row.length = width := by
  have isShaped : misshapenRow? width rows = none ↔ ∀ row ∈ rows, row.length = width := by
    rw [misshapenRow?, List.find?_eq_none]
    constructor
    · intro none row member
      obtain ⟨place, bound, rfl⟩ := List.mem_iff_getElem.mp member
      simpa using none (rows[place], place) (List.mem_zipIdx_iff_getElem?.mpr (by simp))
    · rintro each ⟨row, place⟩ member
      simpa using each row (List.fst_mem_of_mem_zipIdx member)
  rw [← isShaped, checkShape]
  split
  · simp [*]
  · simp [*]

theorem PlanColumn.name_of_describe {column : PlanColumn} {catalog : Catalog}
    {capabilities : Capabilities} {descriptor : ColumnDescriptor}
    (described : column.describe catalog capabilities = .ok descriptor) :
    descriptor.name = capabilities.columnName column := by
  cases column with
  | field shown =>
      obtain ⟨field, _, isDescriptor⟩ := Outcome.bind_eq_ok.mp described
      cases isDescriptor
      rfl
  | aggregate kind source =>
      obtain ⟨field, _, isDescriptor⟩ := Outcome.bind_eq_ok.mp described
      cases isDescriptor
      rfl

/-- The columns that are described are those of the plan, under the names that the plan gives. -/
theorem Plan.describe_eq_ok {plan : Plan} {columns : List Column} {catalog : Catalog}
    {capabilities : Capabilities} {descriptors : List ColumnDescriptor}
    (described : plan.describe columns catalog capabilities = .ok descriptors) :
    columns.map Column.name = plan.columnNames capabilities ∧
      descriptors.map ColumnDescriptor.name = plan.columnNames capabilities := by
  rw [Plan.describe] at described
  split at described
  case isTrue aligned =>
    exact ⟨aligned, Outcome.map_eq_map_of_mapM described fun _ _ _ => PlanColumn.name_of_describe⟩
  case isFalse => cases described

/-- An envelope that holds the rows of an answer to a plan as they are, each with one value for
each column of the plan. -/
structure Envelope.Answers (envelope : Envelope) (plan : Plan) (answer : Rowset) : Prop where
  rows : envelope.rows = answer.rows
  rowCount : envelope.rowCount = envelope.rows.length
  columns : envelope.columns = envelope.descriptors.map ColumnDescriptor.name
  width : envelope.descriptors.length = plan.columns.length
  shape : ∀ row ∈ envelope.rows, row.length = plan.columns.length
  warnings : envelope.warnings = plan.warnings.map PlanWarning.text

namespace Engine

variable {σ : Type}

/-- Processing leads up to the assembly of the envelope. -/
theorem leads_drive (engine : Engine σ) (request : Request) (cancelAt : Option Nat) :
    (engine.drive request cancelAt).Leads .received .assembling := by
  refine .bind (Processing.leads_enter rfl) fun _ => ?_
  refine .bind (Processing.leads_check (by decide) _) fun compiled => ?_
  refine .bind (Processing.leads_enter rfl) fun _ => ?_
  refine .bind (Processing.leads_execution _ _) fun outcome => ?_
  refine .bind (Processing.leads_check (by decide) outcome) fun rowset => ?_
  refine .bind (Processing.leads_enter rfl) fun _ => ?_
  refine .bind (Processing.leads_check (by decide) _) fun descriptors => ?_
  refine .bind (Processing.leads_enter rfl) fun _ => ?_
  exact .bind (Processing.leads_check (by decide) _) fun _ => Processing.leads_pure _ _

/-- The stages of a run are all of them, or those up to the one it failed in. -/
theorem stages_run (engine : Engine σ) (request : Request) (cancelAt : Option Nat) (state : σ) :
    match (engine.run request cancelAt state).result with
    | .ok _ => (engine.run request cancelAt state).stages = Stage.path
    | .error failed =>
      failed.stage ∈ Stage.working ∧
        (engine.run request cancelAt state).stages = failed.stage.upTo ++ [.failed] := by
  have led := engine.leads_drive request cancelAt ⟨.start, 0, state⟩ rfl
  rw [run]
  cases ran : (engine.drive request cancelAt).run.run ⟨.start, 0, state⟩ with
  | mk result progress =>
      rw [ran] at led
      cases result with
      | ok envelope => exact Trail.advance_of_next? led rfl
      | error failed => exact ⟨led.1, Trail.fail_of_working led.2 led.1⟩

/-- The envelope for the outcome of an execution, or the failure with the stage that it is in. -/
def conclude (compiled : Compiled σ) (outcome : Except Failure Rowset) :
    Except StageFailure Envelope := do
  let rowset ← outcome.mapError (StageFailure.mk .executing)
  let descriptors ←
    (compiled.plan.describe rowset.columns compiled.backend.catalog
      compiled.backend.capabilities).mapError (StageFailure.mk .normalizing)
  (checkShape rowset.rows descriptors.length).mapError (StageFailure.mk .assembling)
  return .assemble rowset.rows descriptors (compiled.plan.warnings.map PlanWarning.text)

theorem run_of_not_compiled {engine : Engine σ} {request : Request} {failure : Failure}
    (failed : engine.compile request = .error failure) (cancelAt : Option Nat) (state : σ) :
    (engine.run request cancelAt state).result = .error ⟨.compiling, failure⟩ := by
  simp only [run, drive, failed]
  rfl

/-- A run of a request that compiles is the execution of its plan and what is made of it. -/
theorem run_of_compiled {engine : Engine σ} {request : Request} {compiled : Compiled σ}
    (compiles : engine.compile request = .ok compiled) (cancelAt : Option Nat) (state : σ) :
    let processed := engine.run request cancelAt state
    let execution := engine.executePlan cancelAt compiled state
    processed.result = conclude compiled execution.outcome ∧
      processed.elapsed = execution.elapsed ∧ processed.after = execution.after := by
  simp only [run, drive, compiles, conclude, Processing.run_enter_bind, Processing.run_execution_bind,
    Processing.run_check_ok_bind]
  cases (engine.executePlan cancelAt compiled state).outcome with
  | error failure => exact ⟨rfl, rfl, rfl⟩
  | ok rowset =>
      simp only [Processing.run_enter_bind, Processing.run_check_ok_bind, Outcome.mapError_ok,
        Outcome.ok_bind]
      cases compiled.plan.describe rowset.columns compiled.backend.catalog
        compiled.backend.capabilities with
      | error failure => exact ⟨rfl, rfl, rfl⟩
      | ok descriptors =>
          simp only [Processing.run_enter_bind, Processing.run_check_ok_bind, Outcome.mapError_ok,
            Outcome.ok_bind]
          cases checkShape rowset.rows descriptors.length with
          | error failure => exact ⟨rfl, rfl, rfl⟩
          | ok => exact ⟨rfl, rfl, rfl⟩

/-- What is concluded from an execution is its answer in the shape of the plan, or a failure. -/
theorem conclude_eq_ok {compiled : Compiled σ} {outcome : Except Failure Rowset}
    {envelope : Envelope} (concluded : conclude compiled outcome = .ok envelope) :
    ∃ answer, outcome = .ok answer ∧ envelope.Answers compiled.plan answer := by
  cases outcome with
  | error failure => cases concluded
  | ok answer =>
      refine ⟨answer, rfl, ?_⟩
      rw [conclude, Outcome.mapError_ok, Outcome.ok_bind, Outcome.bind_eq_ok] at concluded
      obtain ⟨descriptors, describes, concluded⟩ := concluded
      obtain ⟨_, shaped, isEnvelope⟩ := Outcome.bind_eq_ok.mp concluded
      cases isEnvelope
      have width := congrArg List.length (Plan.describe_eq_ok (Outcome.mapError_eq_ok.mp describes)).2
      rw [List.length_map, Plan.columnNames, List.length_map] at width
      have shape := checkShape_eq_ok_iff.mp (Outcome.mapError_eq_ok.mp shaped)
      rw [width] at shape
      exact ⟨rfl, rfl, rfl, width, shape, rfl⟩

theorem columns_of_conclude {compiled : Compiled σ} {outcome : Except Failure Rowset}
    {envelope : Envelope} (concluded : conclude compiled outcome = .ok envelope) :
    envelope.columns = compiled.plan.columnNames compiled.backend.capabilities := by
  cases outcome with
  | error failure => cases concluded
  | ok answer =>
      rw [conclude, Outcome.mapError_ok, Outcome.ok_bind, Outcome.bind_eq_ok] at concluded
      obtain ⟨descriptors, describes, concluded⟩ := concluded
      obtain ⟨_, _, isEnvelope⟩ := Outcome.bind_eq_ok.mp concluded
      cases isEnvelope
      exact (Plan.describe_eq_ok (Outcome.mapError_eq_ok.mp describes)).2

/-- A run ends after all stages with the answer of one attempt, whole and in the shape of the plan,
or fails in the last stage before the failure that is on its trail. -/
theorem run_completes_or_fails (engine : Engine σ) (request : Request) (cancelAt : Option Nat)
    (state : σ) :
    (∃ envelope compiled answer, ∃ attempts ≤ engine.settings.maxRetries,
      (engine.run request cancelAt state).result = .ok envelope ∧
      (engine.run request cancelAt state).stages = Stage.path ∧
      engine.compile request = .ok compiled ∧
      (compiled.backend.attempt compiled.plan
        (afterAttempts (compiled.backend.attempt compiled.plan) attempts state)).outcome =
          .ok answer ∧
      envelope.Answers compiled.plan answer) ∨
    ∃ failed visited,
      (engine.run request cancelAt state).result = .error failed ∧
      (engine.run request cancelAt state).stages = visited ++ [.failed] ∧
      visited <+: Stage.path ∧ visited.getLast? = some failed.stage ∧
      failed.stage ≠ .received ∧ failed.stage ≠ .completed := by
  have stages := engine.stages_run request cancelAt state
  cases result : (engine.run request cancelAt state).result with
  | ok envelope =>
      rw [result] at stages
      cases compiles : engine.compile request with
      | error failure =>
          rw [run_of_not_compiled compiles] at result
          cases result
      | ok compiled =>
          rw [(run_of_compiled compiles cancelAt state).1] at result
          obtain ⟨answer, isAnswer, answers⟩ := conclude_eq_ok result
          obtain ⟨attempts, bound, yields⟩ := exists_attempt_of_execute _ _ _ _ isAnswer
          exact .inl ⟨envelope, compiled, answer, attempts, bound, rfl, stages, rfl, yields, answers⟩
  | error failed =>
      rw [result] at stages
      obtain ⟨works, isTrail⟩ := stages
      refine .inr ⟨failed, failed.stage.upTo, rfl, isTrail, Stage.upTo_prefix_path works,
        Stage.getLast?_upTo _, ?_, ?_⟩
      · rintro received
        rw [received] at works
        exact absurd works (by decide)
      · rintro completed
        rw [completed] at works
        exact absurd works (by decide)

end Engine

end CrossQuery
