import CrossQuery.Engine.Store
import CrossQuery.Proofs.Collection.Compound
import CrossQuery.Proofs.Collection.Pages
import CrossQuery.Proofs.Plan.Rendered

/-!
# Pipelines that are carried out

A store of documents carries out every stage of the pipeline of a plan, whatever the documents are:
a filter has an answer on each of them, what is computed has a value, and an array is there where
its size is asked for.
-/

set_option autoImplicit false

namespace CrossQuery

open Collection

namespace Collection

/-- A field of the documents of one collection, whose name is not taken for an operator. -/
structure Addressed (field : PlanField) : Prop where
  direct : field.isJoined = false
  noOperator : isOperator (keyName field) = false

section Filters

variable {stored : Option Json} {document : Document}

theorem exists_meets_compareCondition (stored : Option Json) (comparison : Comparison)
    (value : Json) : ∃ kept, meets stored (compareCondition comparison value) = .ok kept := by
  cases comparison with
  | equal => exact ⟨_, meets_single rfl _⟩
  | notEqual => exact ⟨_, meets_single rfl _⟩
  | less => exact ⟨_, meets_single rfl _⟩
  | lessOrEqual => exact ⟨_, meets_single rfl _⟩
  | greater => exact ⟨_, meets_single rfl _⟩
  | greaterOrEqual => exact ⟨_, meets_single rfl _⟩

theorem exists_meets_between (stored : Option Json) (least greatest : Json) :
    ∃ kept, meets stored (.object [("$gte", least), ("$lte", greatest)]) = .ok kept := by
  have above : satisfies stored "$gte" least =
      .ok (ordered stored least (Relational.admits .greaterOrEqual)) := rfl
  have below : satisfies stored "$lte" greatest =
      .ok (ordered stored greatest (Relational.admits .lessOrEqual)) := rfl
  rw [meets_operators (by simp [isOperatorObject, isOperator]), satisfiesAll, satisfiesAll_single,
    above, below]
  cases ordered stored least (Relational.admits .greaterOrEqual) with
  | false => exact ⟨_, rfl⟩
  | true => exact ⟨_, rfl⟩

theorem exists_meets_isNull (stored : Option Json) (negated : Bool) :
    ∃ kept, meets stored (single (if negated then "$ne" else "$eq") .null) = .ok kept := by
  cases negated with
  | false => exact ⟨_, meets_single rfl _⟩
  | true => exact ⟨_, meets_single rfl _⟩

theorem exists_meets_pattern (stored : Option Json) {text : String} {pattern : Pattern}
    (isRead : Pattern.parse? text.toList = some pattern) :
    ∃ kept, meets stored (single "$regex" (.string text)) = .ok kept := by
  rw [meets_single rfl, satisfies, matchesPattern, isRead]
  exact ⟨_, rfl⟩

/-- A test on a field has an answer on each document, if its condition has one on each value. -/
theorem exists_passes_test {field : PlanField} (addressed : Addressed field) {condition : Json}
    (answers : ∀ stored, ∃ kept, meets stored condition = .ok kept) {filter : Json}
    (compiled : (keyOfField field).map (fun key => single key condition) = .ok filter)
    (document : Document) : ∃ kept, passes document filter = .ok kept := by
  rw [keyOfField_eq addressed.direct] at compiled
  obtain rfl := Except.ok.inj compiled
  obtain ⟨kept, answered⟩ := answers (atPath? document (keyName field))
  refine ⟨kept, ?_⟩
  rw [← answered]
  exact passes_path addressed.noOperator document condition

mutual

theorem exists_passes (document : Document) (predicate : Predicate)
    (addressed : ∀ field ∈ predicate.fields, Addressed field) {filter : Json}
    (compiled : filterOf predicate = .ok filter) : ∃ kept, passes document filter = .ok kept := by
  cases predicate with
  | and clauses =>
      rw [filterOf] at compiled
      obtain ⟨filters, areFilters, same⟩ := Outcome.bind_eq_ok.mp compiled
      obtain rfl := Except.ok.inj same
      obtain ⟨answers, answered⟩ := exists_passesEach document clauses addressed areFilters
      refine ⟨Connective.and.decide answers, ?_⟩
      exact (passes_connective .and document filters).trans (congrArg _ answered)
  | or clauses =>
      rw [filterOf] at compiled
      obtain ⟨filters, areFilters, same⟩ := Outcome.bind_eq_ok.mp compiled
      obtain rfl := Except.ok.inj same
      obtain ⟨answers, answered⟩ := exists_passesEach document clauses addressed areFilters
      refine ⟨Connective.or.decide answers, ?_⟩
      exact (passes_connective .or document filters).trans (congrArg _ answered)
  | not clause =>
      rw [filterOf] at compiled
      obtain ⟨inner, isInner, same⟩ := Outcome.bind_eq_ok.mp compiled
      obtain rfl := Except.ok.inj same
      obtain ⟨kept, answered⟩ := exists_passes document clause addressed isInner
      refine ⟨Connective.nor.decide [kept], (passes_connective .nor document [inner]).trans ?_⟩
      rw [passesEach, answered]
      rfl
  | compare field comparison value =>
      rw [filterOf] at compiled
      exact exists_passes_test (addressed field (List.mem_singleton_self field))
        (fun stored => exists_meets_compareCondition stored comparison _) compiled document
  | between field least greatest =>
      rw [filterOf] at compiled
      exact exists_passes_test (addressed field (List.mem_singleton_self field))
        (fun stored => exists_meets_between stored _ _) compiled document
  | isNull field negated =>
      rw [filterOf] at compiled
      exact exists_passes_test (addressed field (List.mem_singleton_self field))
        (fun stored => exists_meets_isNull stored negated) compiled document
  | startsWith field text =>
      rw [filterOf] at compiled
      exact exists_passes_test (addressed field (List.mem_singleton_self field))
        (fun stored => exists_meets_pattern stored (parse?_startsWith text)) compiled document
  | contains field text =>
      rw [filterOf] at compiled
      exact exists_passes_test (addressed field (List.mem_singleton_self field))
        (fun stored => exists_meets_pattern stored (parse?_contains text)) compiled document

theorem exists_passesEach (document : Document) (clauses : List Predicate)
    (addressed : ∀ field ∈ Predicate.fieldsOfEach clauses, Addressed field) {filters : List Json}
    (compiled : filtersOf clauses = .ok filters) :
    ∃ answers, passesEach document filters = .ok answers := by
  cases clauses with
  | nil =>
      cases compiled
      exact ⟨[], rfl⟩
  | cons clause rest =>
      rw [filtersOf] at compiled
      obtain ⟨filter, isFilter, compiled⟩ := Outcome.bind_eq_ok.mp compiled
      obtain ⟨others, areOthers, same⟩ := Outcome.bind_eq_ok.mp compiled
      obtain rfl := Except.ok.inj same
      obtain ⟨kept, answered⟩ := exists_passes document clause
        (fun field tested => addressed field (List.mem_append_left _ tested)) isFilter
      obtain ⟨answers, othersAnswered⟩ := exists_passesEach document rest
        (fun field tested => addressed field (List.mem_append_right _ tested)) areOthers
      refine ⟨kept :: answers, ?_⟩
      rw [passesEach, answered, othersAnswered]
      rfl

end

theorem exists_run_matchStages {filter : Option Predicate}
    (addressed : ∀ predicate, filter = some predicate →
      ∀ field ∈ predicate.fields, Addressed field) {stages : List Json}
    (compiled : matchStages filter = .ok stages) (documents : List Document) :
    ∃ kept, stages.foldlM runStage documents = .ok kept := by
  obtain ⟨_, compiledAgain, keep, run⟩ := exists_kept
    (fun predicate isFilter field tested => (addressed predicate isFilter field tested).direct)
    (fun predicate _ isFilter isCondition document (_ : document ∈ documents) =>
      exists_passes document predicate (addressed predicate isFilter) isCondition)
  obtain rfl := Except.ok.inj (compiled.symm.trans compiledAgain)
  exact ⟨_, run documents (.refl _)⟩

end Filters

section Projections

variable {document : Document} {entries : List (String × Json)}

theorem eq_of_ofJson_computed {choice expression : Json}
    (computed : Projected.ofJson choice = .computed expression) : expression = choice := by
  unfold Projected.ofJson at computed
  split at computed <;> cases computed
  rfl

theorem exists_projectEntries
    (each : ∀ entry ∈ entries, ∃ value, evaluate document entry.2 = .ok value) :
    ∃ projected, projectEntries document entries = .ok projected := by
  induction entries with
  | nil => exact ⟨[], rfl⟩
  | cons entry rest ih =>
      obtain ⟨name, choice⟩ := entry
      obtain ⟨value, computed⟩ := each _ List.mem_cons_self
      obtain ⟨others, run⟩ := ih fun other member => each other (List.mem_cons_of_mem _ member)
      rw [projectEntries, run]
      cases isChoice : Projected.ofJson choice with
      | leftOut => exact ⟨_, rfl⟩
      | kept => exact ⟨_, rfl⟩
      | computed expression =>
          obtain rfl := eq_of_ofJson_computed isChoice
          dsimp only
          rw [computed]
          exact ⟨_, rfl⟩

theorem exists_project
    (each : ∀ entry ∈ entries, ∃ value, evaluate document entry.2 = .ok value) :
    ∃ projected, project (.object (collect entries)) document = .ok projected := by
  obtain ⟨projected, run⟩ :=
    exists_projectEntries fun entry member => each entry (mem_collect member)
  exact ⟨_, Outcome.bind_eq_ok.mpr ⟨projected, run, rfl⟩⟩

theorem exists_runStage_project {documents : List Document}
    (each : ∀ document ∈ documents, ∀ entry ∈ entries,
      ∃ value, evaluate document entry.2 = .ok value) :
    ∃ projected, runStage documents (single "$project" (.object (collect entries))) =
      .ok projected := by
  rw [runStage_project]
  exact Outcome.exists_mapM fun document member => exists_project (each document member)

end Projections

/-- Whatever its entries, the stage of an order sorts. -/
theorem exists_run_sortStages (orderBy : List PlanOrder) (documents : List Document) :
    ∃ sorted, (sortStages (orderBy.map sortEntryOf)).foldlM runStage documents = .ok sorted := by
  unfold sortStages
  split
  · exact ⟨documents, rfl⟩
  · have read : ∃ fields, readSort (.object (collect (orderBy.map sortEntryOf))) = .ok fields := by
      refine Outcome.exists_mapM fun entry member => ?_
      obtain ⟨order, _, rfl⟩ := List.mem_map.mp (mem_collect member)
      exact ⟨_, readSortField_eq order⟩
    obtain ⟨fields, areFields⟩ := read
    rw [List.foldlM_cons, runStage_sort areFields]
    exact ⟨_, rfl⟩

section Groups

variable {kind : AggregateKind} {of : Option String}

theorem exists_identifier (keys : List String) :
    ∃ identifier : Document → Json, ∀ document,
      evaluate document (groupIdentifier keys) = .ok (some (identifier document)) := by
  cases keys with
  | nil => exact ⟨fun _ => .null, evaluate_identifier_nil⟩
  | cons key rest => exact ⟨_, evaluate_identifier (List.cons_ne_nil key rest)⟩

/-- The accumulator of an aggregate has a share on each document, and collects values where they
are counted afterwards. -/
theorem exists_accumulator {accumulator : Json}
    (isAccumulator : accumulatorOf kind of = .ok accumulator) :
    ∃ (name : String) (argument : Json) (sums : Accumulator) (share : Document → Option Json),
      accumulator = single name argument ∧ Accumulator.ofName? name = some sums ∧
      (∀ document, evaluate document argument = .ok (share document)) ∧
      (kind = .distinct → sums = .set) := by
  cases kind with
  | count =>
      cases isAccumulator
      exact ⟨_, _, .sum, fun _ => some (.whole 1), rfl, rfl, fun _ => rfl, nofun⟩
  | sum =>
      cases of with
      | none => cases isAccumulator
      | some key =>
          cases isAccumulator
          exact ⟨_, _, .sum, _, rfl, rfl, fun document => evaluate_pathText document key, nofun⟩
  | average =>
      cases of with
      | none => cases isAccumulator
      | some key =>
          cases isAccumulator
          exact ⟨_, _, .average, _, rfl, rfl, fun document => evaluate_pathText document key, nofun⟩
  | distinct =>
      cases of with
      | none => cases isAccumulator
      | some key =>
          cases isAccumulator
          exact ⟨_, _, .set, _, rfl, rfl, fun document => evaluate_pathText document key,
            fun _ => rfl⟩

theorem exists_evaluate_aggregate {identifier : Document → Json} {sums : Accumulator}
    {share : Document → Option Json} (collects : kind = .distinct → sums = .set)
    (group : Document × List Document) :
    ∃ value, evaluate (totalDocument identifier sums share group) (aggregateProjection kind) =
      .ok value := by
  cases kind with
  | distinct =>
      obtain rfl := collects rfl
      exact ⟨_, evaluate_size plainName_aggregateField rfl⟩
  | _ => exact ⟨_, evaluate_pathText _ aggregateField⟩

/-- The stages of an aggregate are carried out on whatever documents. -/
theorem exists_run_groupStages (breakout : List PlanField) {accumulator : Json}
    (isAccumulator : accumulatorOf kind of = .ok accumulator) (documents : List Document) :
    ∃ grouped,
      [single "$group" (.object [("_id", groupIdentifier (breakout.map keyName)),
          (aggregateField, accumulator)]),
        single "$project" (.object (collect (breakout.zipIdx.map breakoutEntry ++
          [(aggregateField, aggregateProjection kind)])))].foldlM runStage documents =
        .ok grouped := by
  obtain ⟨identifier, identified⟩ := exists_identifier (breakout.map keyName)
  obtain ⟨name, argument, sums, share, rfl, named, evaluated, collects⟩ :=
    exists_accumulator isAccumulator
  have grouped := groupDocuments_single identified named evaluated documents
  have run : runStage documents (single "$group" (.object
      [("_id", groupIdentifier (breakout.map keyName)), (aggregateField, single name argument)])) =
        .ok ((Grouping.groups (fun document => groupKey (identifier document)) documents).map
          (totalDocument identifier sums share)) := by
    rw [← grouped]
    simp [runStage, single]
  have projected : ∀ document ∈
      (Grouping.groups (fun document => groupKey (identifier document)) documents).map
        (totalDocument identifier sums share),
      ∀ entry ∈ breakout.zipIdx.map breakoutEntry ++ [(aggregateField, aggregateProjection kind)],
        ∃ value, evaluate document entry.2 = .ok value := by
    intro document isGroup entry member
    obtain ⟨group, _, rfl⟩ := List.mem_map.mp isGroup
    rcases List.mem_append.mp member with isBreakout | isAggregate
    · obtain ⟨place, _, rfl⟩ := List.mem_map.mp isBreakout
      exact ⟨_, evaluate_pathText _ _⟩
    · obtain rfl := List.mem_singleton.mp isAggregate
      exact exists_evaluate_aggregate collects group
  obtain ⟨documents, done⟩ := exists_runStage_project projected
  refine ⟨documents, ?_⟩
  rw [List.foldlM_cons, run, Outcome.ok_bind, List.foldlM_cons, done]
  rfl

end Groups

end Collection

namespace Plan.Arranged

variable {plan : Plan}

/-- Every pipeline of a plan that reaches no other table is carried out. -/
theorem exists_aggregate (arranged : plan.Arranged) (noJoins : plan.joins = [])
    (addressed : ∀ field ∈ plan.fields, Addressed field)
    (limit : ∀ count, plan.limit = some count → count < 2 ^ 64)
    (offset : ∀ count, plan.offset = some count → count < 2 ^ 64) (store : Store) :
    ∃ pipeline keys documents, pipelineOfPlan plan = .ok pipeline ∧
      plan.columns.mapM outputKey = .ok keys ∧
      store.aggregate pipeline.collection pipeline.stages = .ok documents := by
  have direct : ∀ field ∈ plan.fields, field.isJoined = false :=
    fun field member => (addressed field member).direct
  obtain ⟨filterStages, filtered⟩ := exists_matchStages direct
  have sorted : plan.orderBy.mapM sortEntry = .ok (plan.orderBy.map sortEntryOf) :=
    Outcome.mapM_eq_ok_map fun order member =>
      sortEntry_eq (direct order.field (mem_fields_of_order member))
  obtain ⟨kept, filterRun⟩ := exists_run_matchStages
    (fun predicate isFilter field tested => addressed field (mem_fields_of_filter isFilter tested))
    filtered (store.documents plan.source.name)
  -- What runs between the filter and the window differs: a listing sorts and then projects, an
  -- aggregate has its groups projected before they are sorted.
  cases arranged with
  | @listing asked isColumns =>
      have askedDirect := fun field member => direct field (mem_fields_of_columns isColumns member)
      obtain ⟨ordered, sortRun⟩ := exists_run_sortStages plan.orderBy kept
      have windowRun := run_windowStages offset limit ordered
      have computed : ∀ document ∈ Relational.window plan.offset plan.limit ordered,
          ∀ entry ∈ (asked.map keyName).map keepField,
            ∃ value, evaluate document entry.2 = .ok value := by
        intro document _ entry member
        obtain ⟨key, _, rfl⟩ := List.mem_map.mp member
        exact ⟨_, evaluate_pathText document key⟩
      obtain ⟨documents, projectRun⟩ := exists_runStage_project computed
      refine ⟨_, _, documents, pipelineOfPlan_listing isColumns noJoins askedDirect filtered sorted,
        outputKeys_listing isColumns askedDirect, ?_⟩
      rw [Collection.listing, Store.aggregate, List.foldlM_append, List.foldlM_append,
        List.foldlM_append, filterRun, Outcome.ok_bind, sortRun, Outcome.ok_bind, windowRun,
        Outcome.ok_bind, List.foldlM_cons, projectRun]
      rfl
  | aggregate isColumns needs _ distinct =>
      obtain ⟨accumulator, accumulates⟩ := exists_accumulatorOf needs
      have breakoutDirect := fun field member => direct field (mem_fields_of_breakout member)
      obtain ⟨grouped, groupRun⟩ := exists_run_groupStages plan.breakout accumulates kept
      obtain ⟨ordered, sortRun⟩ := exists_run_sortStages plan.orderBy grouped
      have windowRun := run_windowStages offset limit ordered
      have piped := pipelineOfPlan_aggregate noJoins isColumns breakoutDirect distinct
        (fun field isSource => direct field (mem_fields_of_aggregate isColumns isSource))
        accumulates filtered sorted
      refine ⟨_, _, Relational.window plan.offset plan.limit ordered, piped,
        outputKeys_aggregate isColumns breakoutDirect, ?_⟩
      rw [Store.aggregate, List.foldlM_append, List.foldlM_append, List.foldlM_append,
        filterRun, Outcome.ok_bind, groupRun, Outcome.ok_bind, sortRun, Outcome.ok_bind, windowRun]

theorem length_of_mem_rowsOfDocuments (arranged : plan.Arranged) {keys : List String}
    (areKeys : plan.columns.mapM outputKey = .ok keys) {documents : List Document}
    {row : List Cell} (member : row ∈ rowsOfDocuments plan keys documents) :
    row.length = plan.columns.length := by
  have sameLength : keys.length = plan.columns.length := by
    simpa using (congrArg List.length (Outcome.mapM_eq_ok_iff.mp areKeys)).symm
  unfold rowsOfDocuments at member
  split at member
  · next ungrouped isAggregate =>
      obtain rfl := List.mem_singleton.mp member
      cases arranged with
      | listing isColumns =>
          rw [aggregate?_of_fields isColumns] at isAggregate
          cases isAggregate
      | aggregate isColumns =>
          rw [isColumns, ungrouped]
          rfl
  · obtain ⟨document, _, rfl⟩ := List.mem_map.mp member
    rw [rowOfDocument, List.length_map, sameLength]

/-- A store of documents answers a plan that reaches no other table. -/
theorem exists_answer_documents (arranged : plan.Arranged) (noJoins : plan.joins = [])
    (addressed : ∀ field ∈ plan.fields, Addressed field)
    (limit : ∀ count, plan.limit = some count → count < 2 ^ 64)
    (offset : ∀ count, plan.offset = some count → count < 2 ^ 64) (store : Store) :
    ∃ rowset, store.answerPlan plan = .ok (.ok rowset) ∧ plan.Tabulates .document rowset := by
  obtain ⟨pipeline, keys, documents, piped, areKeys, aggregated⟩ :=
    arranged.exists_aggregate noJoins addressed limit offset store
  refine ⟨rowsetOfDocuments plan keys (plan.columns.map Capabilities.document.columnName) documents,
    ?_, ?_, fun row member => arranged.length_of_mem_rowsOfDocuments areKeys member⟩
  · rw [Store.answerPlan, piped, Outcome.ok_bind, areKeys, Outcome.ok_bind, aggregated]
    rfl
  · rw [rowsetOfDocuments, List.map_map]
    exact List.zipIdx_map_fst 0 _

end Plan.Arranged

end CrossQuery
