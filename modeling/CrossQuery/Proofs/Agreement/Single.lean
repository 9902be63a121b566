import CrossQuery.Proofs.Agreement.Groups

/-!
# Aggregates of all records

An aggregate of all records has one row, which a window keeps or takes away. The store of documents
answers with one document, or with none if there are no records, and a row stands in for a document
that is not there.
-/

set_option autoImplicit false

namespace CrossQuery

open Collection

section Window

variable {α : Type}

theorem window_nil (offset limit : Option Nat) : Relational.window offset limit ([] : List α) = [] := by
  cases limit <;> simp [Relational.window]

/-- A window that begins with the first row and has room for one. -/
def KeepsFirst (offset limit : Option Nat) : Prop :=
  offset.getD 0 = 0 ∧ limit ≠ some 0

theorem window_singleton {offset limit : Option Nat} (keeps : KeepsFirst offset limit) (item : α) :
    Relational.window offset limit [item] = [item] := by
  obtain ⟨noOffset, positive⟩ := keeps
  simp only [Relational.window, noOffset, List.drop_zero]
  cases limit with
  | none => rfl
  | some most =>
      cases most with
      | zero => exact absurd rfl positive
      | succ count => exact congrArg (item :: ·) List.take_nil

theorem window_singleton_of_not_keeps {offset limit : Option Nat}
    (cuts : ¬ KeepsFirst offset limit) (item : α) : Relational.window offset limit [item] = [] := by
  unfold Relational.window
  cases skipped : offset.getD 0 with
  | succ count => cases limit <;> simp
  | zero =>
      have noRoom : limit = some 0 := by
        by_contra positive
        exact cuts ⟨skipped, positive⟩
      rw [noRoom]
      rfl

theorem sortRows_singleton (keys : List Select.SortKey) (row : Relational.OrderedRow) :
    Relational.sortRows keys [row] = [row] :=
  List.mergeSort_singleton row

end Window

/-- A plan for an aggregate of all records of its source. -/
structure Plan.Totals (plan : Plan) (source : Table) (kind : AggregateKind)
    (of : Option PlanField) : Prop where
  source : plan.source = source
  joins : plan.joins = []
  columns : plan.columns = [.aggregate kind of]
  breakout : plan.breakout = []
  orderBy : plan.orderBy = []
  limit : ∀ count, plan.limit = some count → count < 2 ^ 64
  offset : ∀ count, plan.offset = some count → count < 2 ^ 64
  direct : ∀ field, of = some field → field.isJoined = false

/-- The records of a table that both stores keep for a filter. -/
structure KeptAlike (stores : EmbeddedStores) (source : Table) (columns : List Column)
    (records kept : List TableRecord) (filter : Option Predicate) : Prop where
  rows : stores.database.table (Naming.upperCase.spell source.name) =
    .ok ⟨columns, records.map Prod.fst⟩
  documents : stores.documents.documents source.name = records.map Prod.snd
  filterRows : (scopeOf source columns).filter (filter.map (Relational.condition .upperCase))
    (records.map Prod.fst) = .ok (kept.map Prod.fst)
  filterDocuments : ∃ stages, matchStages filter = .ok stages ∧
    stages.foldlM runStage (records.map Prod.snd) = .ok (kept.map Prod.snd)
  part : List.Sublist kept records

/-- What the store of documents answers for an aggregate of all records: a document, or none
without records. -/
def totalDocuments (kind : AggregateKind) (of : Option PlanField) (records : List TableRecord) :
    List Document :=
  if records.isEmpty then []
  else [[("_id", .null), (aggregateField, aggregateJson kind (sourceValues of records))]]

/-- A window that keeps the first row keeps the document. -/
theorem window_totalDocuments {offset limit : Option Nat} (keeps : KeepsFirst offset limit)
    (kind : AggregateKind) (of : Option PlanField) (records : List TableRecord) :
    Relational.window offset limit (totalDocuments kind of records) =
      totalDocuments kind of records := by
  unfold totalDocuments
  split
  · exact window_nil _ _
  · exact window_singleton keeps _

theorem window_totalDocuments_of_not_keeps {offset limit : Option Nat}
    (cuts : ¬ KeepsFirst offset limit) (kind : AggregateKind) (of : Option PlanField)
    (records : List TableRecord) :
    Relational.window offset limit (totalDocuments kind of records) = [] := by
  unfold totalDocuments
  split
  · exact window_nil _ _
  · exact window_singleton_of_not_keeps cuts _

section Total

variable {stores : EmbeddedStores} {source : Table} {columns : List Column}
  {records kept : List TableRecord} {plan : Plan} {kind : AggregateKind} {of : Option PlanField}

/-- A plan without groups that aggregates has no order. -/
theorem Plan.Portable.unordered {query : Query} {known : List PlanField}
    (portable : plan.Portable query source known) (ungrouped : plan.breakout = [])
    (isAggregate : plan.columns = [.aggregate kind of]) : plan.orderBy = [] := by
  have isAggregated : plan.isAggregated = true := by
    rw [Plan.isAggregated, isAggregate]
    rfl
  refine List.eq_nil_iff_forall_not_mem.mpr fun order member => ?_
  have allowed := portable.orderBy.allowed isAggregated order member
  rw [ungrouped] at allowed
  cases allowed

theorem Plan.Totals.isAggregate (totals : plan.Totals source kind of) :
    plan.columns = plan.breakout.map .field ++ [.aggregate kind of] := by
  rw [totals.columns, totals.breakout]
  rfl

/-- The database answers an aggregate of all records with one row, unless the window takes it
away. -/
theorem Plan.Totals.answer (totals : plan.Totals source kind of)
    (keptAlike : KeptAlike stores source columns records kept plan.filter)
    (aggregable : Aggregable source columns records kind of) :
    ∃ statement answer, Relational.statementOfPlan .upperCase plan = .ok statement ∧
      stores.database.answer statement = .ok answer ∧
      answer.rows = Relational.window plan.offset plan.limit
        [[aggregateCell kind (sourceValues of kept)]] := by
  obtain ⟨expression, computes⟩ := aggregable.exists_computes
  obtain ⟨type, isType⟩ := computes.typed
  have ungrouped : plan.breakout.map (Relational.columnOfField .upperCase) = [] := by
    rw [totals.breakout]
    rfl
  have described : (aggregateStatement plan source kind of expression).projections.mapM
      (scopeOf source columns).columnOf = .ok [⟨(Capabilities.relational .upperCase).columnName
        (.aggregate kind of), type⟩] := by
    rw [aggregateStatement, totals.breakout]
    refine Outcome.mapM_eq_ok_iff.mpr ?_
    rw [List.map_nil, List.nil_append, List.map_singleton]
    exact congrArg (fun column => [column]) (Outcome.bind_eq_ok.mpr ⟨type, isType, rfl⟩)
  have row := orderedRow_of_group plan (fun _ => .null) computes ⟨[], kept.map Prod.fst⟩
    keptAlike.part rfl
    (fun field isBreakout => absurd (totals.breakout ▸ isBreakout) List.not_mem_nil)
    (fun order isOrder => absurd (totals.orderBy ▸ isOrder) List.not_mem_nil)
  rw [ungrouped, totals.breakout, totals.orderBy] at row
  have answered : Relational.Joined.answerRows ⟨scopeOf source columns, records.map Prod.fst⟩
      (aggregateStatement plan source kind of expression) (kept.map Prod.fst) =
        .ok [⟨[aggregateCell kind (sourceValues of kept)], []⟩] := by
    rw [Relational.Joined.answerRows, isAggregate_aggregateStatement computes, if_pos rfl]
    have grouped : (scopeOf source columns).group
        (aggregateStatement plan source kind of expression).groupBy (kept.map Prod.fst) =
          .ok [⟨[], kept.map Prod.fst⟩] := by
      rw [aggregateStatement, ungrouped]
      rfl
    have noGroupBy : (aggregateStatement plan source kind of expression).groupBy = [] := ungrouped
    rw [grouped, Outcome.ok_bind, noGroupBy, List.mapM_cons, row]
    rfl
  have answer := Relational.Database.answer_of_clauses
    (aggregateStatement plan source kind of expression) rfl keptAlike.rows rfl
    keptAlike.filterRows described answered
  refine ⟨_, _, statementOfPlan_aggregate totals.source totals.joins totals.isAggregate
    computes.compiled, answer, ?_⟩
  rw [sortRows_singleton, ← Relational.window_map]
  rfl

/-- The store of documents puts all documents into one group, if there are any. -/
theorem run_totalStages (part : List.Sublist kept records) {name : String} {argument : Json}
    {accumulator : Accumulator} {share : Document → Option Json}
    (accumulates : Accumulates kind of records name argument accumulator share) :
    [single "$group" (.object [("_id", groupIdentifier []),
        (aggregateField, single name argument)]),
      single "$project" (.object (collect
        [(aggregateField, aggregateProjection kind)]))].foldlM runStage (kept.map Prod.snd) =
      .ok (totalDocuments kind of kept) := by
  have grouped := groupDocuments_single evaluate_identifier_nil accumulates.named
    accumulates.evaluated (kept.map Prod.snd)
  rw [List.foldlM_cons, runStage_group, grouped, Outcome.ok_bind, List.foldlM_cons,
    runStage_project]
  cases kept with
  | nil => rfl
  | cons first rest =>
      rw [List.map_cons, Grouping.groups_of_same fun _ _ => rfl, List.map_singleton]
      have projected : project (.object (collect [(aggregateField, aggregateProjection kind)]))
          (totalDocument (fun _ => .null) accumulator share
            (first.2, first.2 :: rest.map Prod.snd)) =
            .ok [("_id", .null),
              (aggregateField, aggregateJson kind (sourceValues of (first :: rest)))] := by
        refine project_total (aggregateProjection_computed kind) ?_
        refine accumulates.projected (first :: rest) part (List.cons_ne_nil _ _) _ ?_
        rw [← List.map_cons, List.map_map]
        rfl
      rw [List.mapM_cons, projected]
      rfl

/-- The store of documents answers an aggregate of all records with what the window leaves of its
document. -/
theorem Plan.Totals.aggregate (totals : plan.Totals source kind of)
    (keptAlike : KeptAlike stores source columns records kept plan.filter)
    (aggregable : Aggregable source columns records kind of) (few : records.length < 2 ^ 63) :
    ∃ pipeline, pipelineOfPlan plan = .ok pipeline ∧
      stores.documents.aggregate pipeline.collection pipeline.stages =
        .ok (Relational.window plan.offset plan.limit (totalDocuments kind of kept)) := by
  obtain ⟨name, argument, accumulator, share, accumulates⟩ := aggregable.exists_accumulates few
  obtain ⟨filterStages, filterCompiled, filterRun⟩ := keptAlike.filterDocuments
  have sortCompiled : plan.orderBy.mapM sortEntry = .ok [] := by
    rw [totals.orderBy]
    rfl
  have compiled := pipelineOfPlan_aggregate totals.joins totals.isAggregate
    (fun field member => absurd (totals.breakout ▸ member) List.not_mem_nil)
    (by rw [totals.breakout]; exact List.nodup_nil) totals.direct accumulates.compiled
    filterCompiled sortCompiled
  rw [totals.breakout, totals.source] at compiled
  refine ⟨_, compiled, ?_⟩
  have totalRun := run_totalStages keptAlike.part accumulates
  have windowRun := run_windowStages totals.offset totals.limit
  rw [Store.aggregate, keptAlike.documents, List.foldlM_append, List.foldlM_append,
    List.foldlM_append, filterRun, Outcome.ok_bind]
  rw [show ([] : List PlanField).map keyName = [] from rfl,
    show ([] : List PlanField).zipIdx.map breakoutEntry = [] from rfl, List.nil_append, totalRun,
    Outcome.ok_bind, show sortStages [] = [] from rfl, List.foldlM_nil, Outcome.pure_eq_ok,
    Outcome.ok_bind, windowRun]

theorem Plan.Totals.outputKeys (totals : plan.Totals source kind of) :
    plan.columns.mapM outputKey = .ok [aggregateField] := by
  rw [totals.columns]
  rfl

/-- The row that stands in for a document that is not there is that of an aggregate of no
records. -/
theorem toJson_emptyAggregate (kind : AggregateKind) :
    (emptyAggregate kind).toJson = (aggregateCell kind []).toJson := by
  cases kind <;> rfl

/-- Where there is no document there is a row all the same, that of no records. -/
theorem Plan.Totals.rowsOfDocuments_nil (totals : plan.Totals source kind of)
    (keys : List String) :
    (rowsOfDocuments plan keys []).map (·.map Cell.toJson) =
      [[(aggregateCell kind []).toJson]] := by
  unfold rowsOfDocuments
  rw [totals.breakout, Plan.aggregate?_of_columns totals.isAggregate]
  exact congrArg (fun value => [[value]]) (toJson_emptyAggregate kind)

/-- What the documents are read back as has the JSON of the only row. -/
theorem Plan.Totals.toJson_totalDocuments (totals : plan.Totals source kind of)
    (aggregable : Aggregable source columns records kind of) (part : List.Sublist kept records)
    (few : records.length < 2 ^ 63) :
    (rowsOfDocuments plan [aggregateField] (totalDocuments kind of kept)).map
        (·.map Cell.toJson) =
      [[(aggregateCell kind (sourceValues of kept)).toJson]] := by
  cases kept with
  | nil => exact totals.rowsOfDocuments_nil _
  | cons first rest =>
      have fewer : (sourceValues of (first :: rest)).length < 2 ^ 63 := by
        rw [sourceValues, List.length_map]
        exact Nat.lt_of_le_of_lt part.length_le few
      have total := toJson_aggregate kind fewer fun isSum => by
        subst isSum
        exact aggregable.summable part
      rw [← total]
      rfl

theorem totalDocuments_eq_nil_iff : totalDocuments kind of kept = [] ↔ kept = [] := by
  cases kept with
  | nil => exact ⟨fun _ => rfl, fun _ => rfl⟩
  | cons first rest => exact ⟨nofun, nofun⟩

/-- Both stores answer an aggregate of all records alike if the window keeps its row. -/
theorem Plan.Totals.answered_alike (totals : plan.Totals source kind of)
    (keptAlike : KeptAlike stores source columns records kept plan.filter)
    (aggregable : Aggregable source columns records kind of) (few : records.length < 2 ^ 63)
    (keeps : KeepsFirst plan.offset plan.limit) : stores.AnswerAlike plan plan := by
  obtain ⟨statement, answer, selected, answered, rows⟩ := totals.answer keptAlike aggregable
  obtain ⟨pipeline, piped, aggregated⟩ := totals.aggregate keptAlike aggregable few
  refine ⟨statement, answer, pipeline, _, _, selected, answered, piped, aggregated,
    totals.outputKeys, ?_⟩
  rw [rows, window_singleton keeps, rowsetOfDocuments, window_totalDocuments keeps,
    totals.toJson_totalDocuments aggregable keptAlike.part few]
  rfl

end Total

end CrossQuery
