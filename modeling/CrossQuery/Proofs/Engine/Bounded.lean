import CrossQuery.CommandLine
import CrossQuery.Proofs.Agreement.Rows
import CrossQuery.Proofs.Dataset.Keyed
import CrossQuery.Proofs.Engine.Passage
import CrossQuery.Proofs.Engine.Retries
import CrossQuery.Proofs.Plan.Rendered

/-!
# Runs within bounds

A run of a request against an embedded store goes on until the caller cancels, the time allowed is
over, or the execution ends by itself, whichever comes first. Whatever ends it, the store has as
many sessions in use as before, and has refused the attempts that were begun and no others.
-/

set_option autoImplicit false

namespace CrossQuery

/-- The stores behind the drivers of a dataset, with the failure of a connection to each. -/
inductive StoreOf : String → String → Failure → Prop where
  | tables : StoreOf CommandLine.tablesDriver "database" databaseRefusal
  | documents : StoreOf CommandLine.documentsDriver "documents" documentsRefusal

/-- A backend that has a store answer a plan. Only a failed connection is worth another attempt. -/
structure Backend.Asks (backend : Backend Site) (plan : Plan) (store : String) (refusal : Failure)
    (answer : Except Failure Rowset) : Prop where
  attempt : backend.attempt plan = fun site => site.attempt store refusal answer
  again : refusal.isRetryable = true
  final : isRetryable answer = false

namespace Backend

variable {name store : String} {catalog : Catalog} {plan : Plan} {answer : Except Failure Rowset}

theorem asks_tables {naming : Naming} {database : Relational.Database}
    (answered : database.answerPlan naming plan = .ok answer) (final : isRetryable answer = false) :
    (tables name naming store database catalog).Asks plan store databaseRefusal answer := by
  refine ⟨?_, rfl, final⟩
  simp only [tables, answered]
  rfl

theorem asks_documents {documents : Collection.Store}
    (answered : documents.answerPlan plan = .ok answer) (final : isRetryable answer = false) :
    (Backend.documents name store documents catalog).Asks plan store documentsRefusal answer := by
  refine ⟨?_, rfl, final⟩
  simp only [Backend.documents, answered]
  rfl

end Backend

/-- A database fails to answer a plan only in what it makes of the statement. -/
theorem Relational.Database.exists_answerPlan (database : Relational.Database) {plan : Plan}
    (arranged : plan.Arranged) (naming : Naming) :
    ∃ answer, database.answerPlan naming plan = .ok answer ∧ isRetryable answer = false := by
  obtain ⟨statement, written⟩ := arranged.exists_statement naming
  refine ⟨(database.execute statement.write).mapError Relational.Refusal.failure, ?_, ?_⟩
  · rw [answerPlan, written]
    rfl
  · cases database.execute statement.write <;> rfl

/-- A store of documents fails to answer a plan only in what it makes of the pipeline. -/
theorem Collection.Store.exists_answerPlan (documents : Collection.Store) {plan : Plan}
    (arranged : plan.Arranged) (noJoins : plan.joins = [])
    (direct : ∀ field ∈ plan.fields, field.isJoined = false) :
    ∃ answer, documents.answerPlan plan = .ok answer ∧ isRetryable answer = false := by
  obtain ⟨pipeline, keys, piped, areKeys⟩ := arranged.exists_pipeline noJoins direct
  refine ⟨((documents.aggregate pipeline.collection pipeline.stages).mapError
    Collection.Refusal.failure).map (Collection.rowsetOfDocuments plan keys
      (plan.columns.map Capabilities.document.columnName)), ?_, ?_⟩
  · rw [answerPlan, piped, Outcome.ok_bind, areKeys]
    rfl
  · cases documents.aggregate pipeline.collection pipeline.stages <;> rfl

namespace Engine

variable {engine : Engine Site} {request : Request} {compiled : Compiled Site}

theorem plan_of_compile (compiles : engine.compile request = .ok compiled) :
    request.query.compile compiled.backend.catalog compiled.backend.capabilities
      request.databaseId engine.settings.maxResultRows = .ok compiled.plan := by
  obtain ⟨backend, _, compiles⟩ := Outcome.bind_eq_ok.mp compiles
  obtain ⟨plan, isPlan, same⟩ := Outcome.bind_eq_ok.mp compiles
  cases same
  exact isPlan

/-- A plan that compiles for an embedded store is one that the store can be asked. -/
theorem asks_of_compile {dataset : Dataset} {stores : EmbeddedStores}
    (embedded : dataset.embed = .ok stores)
    (isEmbedded : compiled.backend ∈ CommandLine.embeddedBackends stores)
    (compiles : engine.compile request = .ok compiled) :
    ∃ store refusal answer, StoreOf compiled.backend.name store refusal ∧
      compiled.backend.Asks compiled.plan store refusal answer := by
  obtain ⟨database, _, isStores⟩ := Outcome.bind_eq_ok.mp embedded
  cases isStores
  have isPlan := plan_of_compile compiles
  obtain ⟨backend, plan⟩ := compiled
  obtain rfl | isDocuments := List.mem_cons.mp isEmbedded
  · have wellFormed := dataset.wellFormed_of_compile isPlan
    obtain ⟨answer, answered, final⟩ :=
      database.exists_answerPlan wellFormed.arranged .upperCase
    exact ⟨_, _, answer, .tables, Backend.asks_tables answered final⟩
  · obtain rfl := List.mem_singleton.mp isDocuments
    have wellFormed := dataset.wellFormed_of_compile isPlan
    have noJoins := wellFormed.unsupported rfl
    obtain ⟨answer, answered, final⟩ :=
      dataset.documents.exists_answerPlan wellFormed.arranged
        noJoins fun field member => (wellFormed.reaches field member).isJoined_eq_false noJoins
    exact ⟨_, _, answer, .documents, Backend.asks_documents answered final⟩

/-- What a run ends with, at which moment, and how many connections the store has refused. -/
structure EndsWith (engine : Engine Site) (request : Request) (cancelAt : Option Nat) (site : Site)
    (store : String) (result : Except StageFailure Envelope) (moment refused : Nat) : Prop where
  result : (engine.run request cancelAt site).result = result
  elapsed : (engine.run request cancelAt site).elapsed = moment
  refusals :
    ((engine.run request cancelAt site).after.store store).refusals + refused =
      (site.store store).refusals

/-- How a run goes that has a store answer its plan, in time from the start of the execution. What
happens at one moment happens in order: the caller cancels, the store is asked, the time is up. -/
structure Timed (engine : Engine Site) (request : Request) (compiled : Compiled Site)
    (cancelAt : Option Nat) (site : Site) (store : String) (refusal : Failure)
    (answer : Except Failure Rowset) : Prop where
  attempts : ∀ number ≤ min (site.store store).refusals engine.settings.maxRetries,
    (∀ cancel, cancelAt = some cancel →
      attemptMoment engine.settings.retryBackoff number < cancel) →
    (∀ allowed, engine.settings.timeout = some allowed →
      attemptMoment engine.settings.retryBackoff number ≤ allowed) →
    let later := afterAttempts (compiled.backend.attempt compiled.plan) number site
    (later.store store).refusals = (site.store store).refusals - number ∧
      engine.executePlan cancelAt compiled site =
        execute ⟨cancelAt, engine.settings.timeout⟩ (compiled.backend.attempt compiled.plan)
          (engine.settings.maxRetries - number) (engine.settings.retryBackoff * 2 ^ number)
          (attemptMoment engine.settings.retryBackoff number) later
  finished :
    (∀ cancel, cancelAt = some cancel →
      (site.store store).finish engine.settings.maxRetries engine.settings.retryBackoff < cancel) →
    (∀ allowed, engine.settings.timeout = some allowed →
      (site.store store).finish engine.settings.maxRetries engine.settings.retryBackoff ≤
        allowed) →
    engine.EndsWith request cancelAt site store
      (conclude compiled ((site.store store).outcome engine.settings.maxRetries refusal answer))
      ((site.store store).finish engine.settings.maxRetries engine.settings.retryBackoff)
      (min (site.store store).refusals (engine.settings.maxRetries + 1))
  cancelled : ∀ cancel, cancelAt = some cancel →
    cancel ≤ (site.store store).finish engine.settings.maxRetries engine.settings.retryBackoff →
    (∀ allowed, engine.settings.timeout = some allowed → cancel ≤ allowed) →
    engine.EndsWith request cancelAt site store (.error ⟨.executing, .cancelled .caller⟩) cancel
      ((List.range (min (site.store store).refusals (engine.settings.maxRetries + 1))).countP
        fun number => attemptMoment engine.settings.retryBackoff number < cancel)
  timedOut : ∀ allowed, engine.settings.timeout = some allowed →
    allowed < (site.store store).finish engine.settings.maxRetries engine.settings.retryBackoff →
    (∀ cancel, cancelAt = some cancel → allowed < cancel) →
    engine.EndsWith request cancelAt site store
      (.error ⟨.executing, .cancelled (.timeout allowed)⟩) allowed
      ((List.range (min (site.store store).refusals (engine.settings.maxRetries + 1))).countP
        fun number => attemptMoment engine.settings.retryBackoff number ≤ allowed)
  sessions : ∀ name, ((engine.run request cancelAt site).after.store name).sessions =
    (site.store name).sessions

section

variable {store : String} {refusal : Failure} {answer : Except Failure Rowset}
  {cancelAt : Option Nat} {site : Site}

/-- The execution of a plan as the store sees it that is asked. -/
theorem map_executePlan (asks : compiled.backend.Asks compiled.plan store refusal answer) :
    (engine.executePlan cancelAt compiled site).map (fun site => site.store store) =
      (site.store store).ending ⟨cancelAt, engine.settings.timeout⟩ engine.settings.maxRetries
        engine.settings.retryBackoff 0 refusal answer := by
  rw [executePlan, asks.attempt, map_execute (Site.map_attempt refusal answer),
    StoreState.execute_attempt asks.again asks.final]

theorem outcome_executePlan (asks : compiled.backend.Asks compiled.plan store refusal answer)
    (cancelAt : Option Nat) (site : Site) :
    (engine.executePlan cancelAt compiled site).outcome =
      ((site.store store).ending ⟨cancelAt, engine.settings.timeout⟩ engine.settings.maxRetries
        engine.settings.retryBackoff 0 refusal answer).outcome :=
  congrArg Execution.outcome (map_executePlan asks)

/-- A run that is completed shows what its store answered. -/
theorem exists_answer_of_run (compiles : engine.compile request = .ok compiled)
    (asks : compiled.backend.Asks compiled.plan store refusal answer) {envelope : Envelope}
    (completed : (engine.run request cancelAt site).result = .ok envelope) :
    ∃ rowset, answer = .ok rowset ∧ envelope.Answers compiled.plan rowset := by
  rw [(run_of_compiled compiles cancelAt site).1] at completed
  obtain ⟨rowset, isOutcome, answers⟩ := conclude_eq_ok completed
  rw [outcome_executePlan asks, StoreState.ending] at isOutcome
  split at isOutcome
  · cases isOutcome
  · dsimp only [StoreState.outcome] at isOutcome
    split at isOutcome
    · exact ⟨rowset, isOutcome, answers⟩
    · cases isOutcome

/-- A run ends with what its execution comes to for the store. -/
theorem endsWith_of_ending (compiles : engine.compile request = .ok compiled)
    (asks : compiled.backend.Asks compiled.plan store refusal answer)
    (outcome : Except Failure Rowset) {moment refused : Nat}
    (ending : (site.store store).ending ⟨cancelAt, engine.settings.timeout⟩
        engine.settings.maxRetries engine.settings.retryBackoff 0 refusal answer =
      ⟨outcome, moment, (site.store store).refused refused⟩)
    (few : refused ≤ (site.store store).refusals) :
    engine.EndsWith request cancelAt site store (conclude compiled outcome) moment refused := by
  have viewed : (engine.executePlan cancelAt compiled site).map (fun site => site.store store) =
      ⟨outcome, moment, (site.store store).refused refused⟩ :=
    (map_executePlan asks).trans ending
  obtain ⟨result, elapsed, after⟩ := run_of_compiled compiles cancelAt site
  have isOutcome : (engine.executePlan cancelAt compiled site).outcome = outcome :=
    congrArg Execution.outcome viewed
  have isMoment : (engine.executePlan cancelAt compiled site).elapsed = moment :=
    congrArg Execution.elapsed viewed
  have isState : (engine.executePlan cancelAt compiled site).after.store store =
      (site.store store).refused refused :=
    congrArg Execution.after viewed
  constructor
  · rw [result, isOutcome]
  · rw [elapsed, isMoment]
  · rw [after, isState]
    exact Nat.sub_add_cancel few

theorem sessions_run (compiles : engine.compile request = .ok compiled)
    (asks : compiled.backend.Asks compiled.plan store refusal answer) (name : String) :
    ((engine.run request cancelAt site).after.store name).sessions = (site.store name).sessions := by
  rw [(run_of_compiled compiles cancelAt site).2.2, executePlan, asks.attempt]
  let keeps (after : Site) : Prop := (after.store name).sessions = (site.store name).sessions
  have start : keeps site := rfl
  refine execute_preserves ?_ _ _ _ start
  intro state kept
  show ((state.attempt store refusal answer).after.store name).sessions = _
  rw [← show (state.store name).sessions = _ from kept, Site.attempt]
  by_cases same : name = store
  · subst same
    rw [Site.store_setStore, StoreState.attempt_sessions]
  · rw [Site.store_setStore_of_ne same]

/-- A run whose plan a store answers ends with the earliest of three moments: that of the caller,
the end of the time allowed, and the end that it comes to by itself. -/
theorem timed_of_asks (compiles : engine.compile request = .ok compiled)
    (asks : compiled.backend.Asks compiled.plan store refusal answer) :
    engine.Timed request compiled cancelAt site store refusal answer := by
  constructor
  case attempts =>
    intro number few before within later
    have refuses : number ≤ (site.store store).refusals := few.trans (Nat.min_le_left _ _)
    have retried : number ≤ engine.settings.maxRetries := few.trans (Nat.min_le_right _ _)
    have goesOn : (Bounds.mk cancelAt engine.settings.timeout).interruption? _ = none :=
      Bounds.interruption?_eq_none_iff.mpr ⟨before, within⟩
    have isLater : later =
        afterAttempts (fun site => site.attempt store refusal answer) number site := by
      rw [← asks.attempt]
    refine ⟨?_, ?_⟩
    · rw [isLater, Site.store_afterAttempts refusal answer site refuses]
      rfl
    · rw [isLater, executePlan, asks.attempt, ← Nat.zero_add (attemptMoment _ number)]
      refine execute_of_refusals _ _ _ _ _ (Nat.add_sub_cancel' retried).symm ?_ ?_
      · exact fun earlier isEarlier =>
          Site.refused_afterAttempts site asks.again (Nat.lt_of_lt_of_le isEarlier refuses)
      · rw [Nat.zero_add]
        exact goesOn
  case finished =>
    intro before within
    refine endsWith_of_ending compiles asks _ ?_ (Nat.min_le_left _ _)
    have goesOn : (Bounds.mk cancelAt engine.settings.timeout).interruption? _ = none :=
      Bounds.interruption?_eq_none_iff.mpr ⟨before, within⟩
    rw [StoreState.ending, Nat.zero_add, goesOn]
    rfl
  case cancelled =>
    intro cancel isCancel early first
    refine endsWith_of_ending compiles asks (.error (.cancelled .caller)) ?_ ?_
    · have ended : (Bounds.mk cancelAt engine.settings.timeout).interruption? _ = _ :=
        Bounds.interruption?_of_cancel isCancel early first
      rw [StoreState.ending, Nat.zero_add, ended, StoreState.begunRefusals_of_cancel isCancel first]
      rfl
    · exact (site.store store).countP_refusedAttempts_le engine.settings.maxRetries _
  case timedOut =>
    intro allowed isAllowed early first
    refine endsWith_of_ending compiles asks (.error (.cancelled (.timeout allowed))) ?_ ?_
    · have ended : (Bounds.mk cancelAt engine.settings.timeout).interruption? _ = _ :=
        Bounds.interruption?_of_timeout isAllowed early first
      rw [StoreState.ending, Nat.zero_add, ended,
        StoreState.begunRefusals_of_timeout isAllowed first]
      rfl
    · exact (site.store store).countP_refusedAttempts_le engine.settings.maxRetries _
  case sessions => exact sessions_run compiles asks

end

/-- A run of a request that compiles for an embedded store ends with the earliest of three moments,
whatever connections are refused and however long the statement takes. -/
theorem run_within_bounds {dataset : Dataset} {stores : EmbeddedStores}
    (embedded : dataset.embed = .ok stores)
    (isEmbedded : compiled.backend ∈ CommandLine.embeddedBackends stores)
    (compiles : engine.compile request = .ok compiled) (cancelAt : Option Nat) (site : Site) :
    ∃ store refusal answer, StoreOf compiled.backend.name store refusal ∧
      compiled.backend.Asks compiled.plan store refusal answer ∧
      engine.Timed request compiled cancelAt site store refusal answer := by
  obtain ⟨store, refusal, answer, isStore, asks⟩ := asks_of_compile embedded isEmbedded compiles
  exact ⟨store, refusal, answer, isStore, asks, timed_of_asks compiles asks⟩

/-- An engine over stores with two retries, which gives up after a second. -/
def overStores (stores : EmbeddedStores) : Engine Site :=
  { backends := CommandLine.embeddedBackends stores
    bindings := [(1, CommandLine.documentsDriver)]
    settings :=
      { timeout := some 1000
        maxRetries := 2
        retryBackoff := 100
        maxResultRows := some 2000 } }

/-- A site whose store of documents refuses three connections. -/
def refusingSite : Site :=
  Site.initial.setStore "documents" ⟨.none, 3, 50⟩

/-- A run that is cancelled before its third attempt. -/
theorem cheapProducts_within_bounds :
    ∃ stores compiled, products.embed = .ok stores ∧
      compiled.backend ∈ CommandLine.embeddedBackends stores ∧
      (overStores stores).compile ⟨1, cheapProducts⟩ = .ok compiled ∧
      ∃ store refusal answer, StoreOf compiled.backend.name store refusal ∧
        compiled.backend.Asks compiled.plan store refusal answer ∧
        (overStores stores).Timed ⟨1, cheapProducts⟩ compiled (some 250) refusingSite store refusal
          answer := by
  obtain ⟨stores, embedded⟩ : ∃ stores, products.embed = .ok stores := ⟨_, rfl⟩
  obtain ⟨sameCatalog, _, _⟩ := Dataset.embed_eq_ok embedded
  obtain ⟨plan, isPlan⟩ : ∃ plan,
      cheapProducts.compile products.catalog .document 1 (some 2000) = .ok plan := ⟨_, rfl⟩
  rw [← sameCatalog] at isPlan
  have compiles : (overStores stores).compile ⟨1, cheapProducts⟩ =
      .ok ⟨.documents CommandLine.documentsDriver "documents" stores.documents stores.catalog,
        plan⟩ :=
    Outcome.bind_eq_ok.mpr ⟨_, rfl, Outcome.bind_eq_ok.mpr ⟨plan, isPlan, rfl⟩⟩
  have isEmbedded : Backend.documents CommandLine.documentsDriver "documents" stores.documents
      stores.catalog ∈ CommandLine.embeddedBackends stores :=
    List.mem_cons_of_mem _ (List.mem_singleton_self _)
  exact ⟨stores, _, embedded, isEmbedded, compiles,
    run_within_bounds embedded isEmbedded compiles (some 250) refusingSite⟩

end Engine

end CrossQuery
