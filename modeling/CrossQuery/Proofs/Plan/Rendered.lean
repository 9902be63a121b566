import CrossQuery.Proofs.Collection.Pages
import CrossQuery.Proofs.Collection.Pipelines
import CrossQuery.Proofs.Dataset.Keyed
import CrossQuery.Proofs.Plan.WellFormed

/-!
# Plans that stores are asked

A plan that is well-formed has a statement for any store of tables. For a store without foreign
keys it names fields of its source only, and then it has a pipeline as well.
-/

set_option autoImplicit false

namespace CrossQuery

open Collection

namespace Plan

variable {plan : Plan} {catalog : Catalog} {capabilities : Capabilities} {databaseId : Int}
  {query : Query}

/-- What the columns of a plan are: fields that are listed, or the breakout fields and an aggregate
with the field that it needs. -/
inductive Arranged (plan : Plan) : Prop where
  | listing {asked : List PlanField} :
      plan.columns = asked.map .field → plan.breakout = [] → Arranged plan
  | aggregate {kind : AggregateKind} {of : Option PlanField} :
      plan.columns = plan.breakout.map .field ++ [.aggregate kind of] →
      (of = none ↔ kind = .count) →
      (kind = .sum ∨ kind = .average →
        ∀ field, of = some field → field.field.baseType.isNumeric = true) →
      (plan.breakout.map PlanField.ref).Nodup →
      (plan.orderBy.map PlanOrder.field).Perm plan.breakout → Arranged plan

theorem WellFormed.arranged (wellFormed : plan.WellFormed catalog capabilities databaseId query) :
    plan.Arranged := by
  cases isAggregate : CompileContext.aggregateOf query.aggregation with
  | none =>
      have isRows : query.aggregation = .rows := by
        cases asked : query.aggregation <;> rw [asked] at isAggregate <;> cases isAggregate
      have lists := wellFormed.lists isRows
      obtain ⟨_, fields, _, isColumns⟩ | ⟨_, fields, isColumns, _⟩ := lists.columns
      · have areFields : plan.columns =
            (fields.map fun field => PlanField.direct field plan.source).map .field := by
          rw [isColumns, List.map_map]
          rfl
        exact .listing areFields lists.breakout.2
      · exact .listing isColumns lists.breakout.2
  | some aggregate =>
      have aggregates := wellFormed.aggregates aggregate.1 aggregate.2 isAggregate
      obtain ⟨of, isColumns, _, countOnly, numeric⟩ := aggregates.columns
      exact .aggregate isColumns countOnly numeric aggregates.distinct aggregates.orderBy

/-- A field that is reached without joins is one of the source. -/
theorem Reaches.isJoined_eq_false {field : PlanField} (reached : plan.Reaches catalog field)
    (noJoins : plan.joins = []) : field.isJoined = false := by
  cases reached with
  | direct => rfl
  | through _ _ _ _ _ _ _ _ _ oneJoin =>
      rw [noJoins] at oneJoin
      cases oneJoin

theorem mem_fields_of_aggregate {kind : AggregateKind} {of : Option PlanField} {field : PlanField}
    (isColumns : plan.columns = plan.breakout.map .field ++ [.aggregate kind of])
    (isSource : of = some field) : field ∈ plan.fields := by
  have isColumn : PlanColumn.aggregate kind of ∈ plan.columns := by
    rw [isColumns]
    exact List.mem_append_right _ (List.mem_singleton_self _)
  rw [isSource] at isColumn
  exact mem_fields_of_column isColumn (List.mem_singleton_self field)

/-- The field that is aggregated is one of those of the plan. -/
theorem mem_fields_of_aggregate? {kind : AggregateKind} {field : PlanField}
    (isAggregate : plan.aggregate? = some (kind, some field)) : field ∈ plan.fields := by
  obtain ⟨column, isColumn, found⟩ := List.exists_of_findSome?_eq_some isAggregate
  have shown : field ∈ column.fields := by
    cases column with
    | field => cases found
    | aggregate =>
        cases found
        exact List.mem_singleton_self field
  exact mem_fields_of_column isColumn shown

theorem mem_fields_of_breakout {field : PlanField} (isBreakout : field ∈ plan.breakout) :
    field ∈ plan.fields :=
  List.mem_append_left _ (List.mem_append_right _ isBreakout)

theorem exists_aggregateExpression {kind : AggregateKind} {of : Option PlanField}
    (needs : of = none ↔ kind = .count) (naming : Naming) :
    ∃ expression, Relational.aggregateExpression naming kind of = .ok expression := by
  cases of with
  | none =>
      obtain rfl := needs.mp rfl
      exact ⟨_, rfl⟩
  | some field => cases kind <;> exact ⟨_, rfl⟩

/-- A plan has a statement. -/
theorem Arranged.exists_statement (arranged : plan.Arranged) (naming : Naming) :
    ∃ statement, Relational.statementOfPlan naming plan = .ok statement := by
  have projected : ∃ projections,
      plan.columns.mapM (Relational.projectionOfColumn naming) = .ok projections := by
    refine Outcome.exists_mapM fun column member => ?_
    cases column with
    | field field => exact ⟨_, rfl⟩
    | aggregate kind of =>
        cases arranged with
        | listing isColumns =>
            rw [isColumns] at member
            obtain ⟨_, _, impossible⟩ := List.mem_map.mp member
            cases impossible
        | aggregate isColumns needs =>
            rw [isColumns] at member
            obtain isField | isLast := List.mem_append.mp member
            · obtain ⟨_, _, impossible⟩ := List.mem_map.mp isField
              cases impossible
            · cases List.mem_singleton.mp isLast
              obtain ⟨expression, computed⟩ := exists_aggregateExpression needs naming
              exact ⟨_, Outcome.bind_eq_ok.mpr ⟨expression, computed, rfl⟩⟩
  obtain ⟨projections, isProjections⟩ := projected
  exact ⟨_, Outcome.bind_eq_ok.mpr ⟨projections, isProjections, rfl⟩⟩

theorem exists_accumulatorOf {kind : AggregateKind} {of : Option PlanField}
    (needs : of = none ↔ kind = .count) :
    ∃ accumulator, accumulatorOf kind (of.map keyName) = .ok accumulator := by
  cases of with
  | none =>
      obtain rfl := needs.mp rfl
      exact ⟨_, rfl⟩
  | some field => cases kind <;> exact ⟨_, rfl⟩

theorem exists_matchStages (direct : ∀ field ∈ plan.fields, field.isJoined = false) :
    ∃ stages, matchStages plan.filter = .ok stages := by
  cases isFilter : plan.filter with
  | none => exact ⟨[], rfl⟩
  | some predicate =>
      obtain ⟨filter, compiled⟩ := exists_filterOf predicate fun field tested =>
        direct field (mem_fields_of_filter isFilter tested)
      exact ⟨_, Outcome.bind_eq_ok.mpr ⟨filter, compiled, rfl⟩⟩

/-- A plan that reaches no other table has a pipeline, whose documents have a field for each
column. -/
theorem Arranged.exists_pipeline (arranged : plan.Arranged) (noJoins : plan.joins = [])
    (direct : ∀ field ∈ plan.fields, field.isJoined = false) :
    ∃ pipeline keys, pipelineOfPlan plan = .ok pipeline ∧
      plan.columns.mapM outputKey = .ok keys := by
  obtain ⟨filterStages, filtered⟩ := exists_matchStages direct
  have sorted : plan.orderBy.mapM sortEntry = .ok (plan.orderBy.map sortEntryOf) :=
    Outcome.mapM_eq_ok_map fun order member =>
      sortEntry_eq (direct order.field (mem_fields_of_order member))
  cases arranged with
  | listing isColumns =>
      have askedDirect := fun field member => direct field (mem_fields_of_columns isColumns member)
      exact ⟨_, _, pipelineOfPlan_listing isColumns noJoins askedDirect filtered sorted,
        outputKeys_listing isColumns askedDirect⟩
  | aggregate isColumns needs _ distinct =>
      obtain ⟨accumulator, accumulates⟩ := exists_accumulatorOf needs
      have breakoutDirect := fun field member => direct field (mem_fields_of_breakout member)
      exact ⟨_, _, pipelineOfPlan_aggregate noJoins isColumns breakoutDirect distinct
        (fun field isSource => direct field (mem_fields_of_aggregate isColumns isSource))
        accumulates filtered sorted, outputKeys_aggregate isColumns breakoutDirect⟩

end Plan

/-- A row set with the columns of a plan, in order, and rows as wide as these. -/
structure Plan.Tabulates (plan : Plan) (capabilities : Capabilities) (rowset : Rowset) : Prop where
  names : rowset.columns.map Column.name = plan.columns.map capabilities.columnName
  widths : ∀ row ∈ rowset.rows, row.length = plan.columns.length

namespace Query

variable {catalog : Catalog} {capabilities : Capabilities} {databaseId : Int}
  {maxRows : Option Nat} {query : Query} {plan : Plan}

theorem wellFormed_of_compile (listsOwn : catalog.ListsOwn)
    (compiled : query.compile catalog capabilities databaseId maxRows = .ok plan) :
    plan.WellFormed catalog capabilities databaseId query := by
  obtain ⟨source, joins, isSource, isHere, collected, composes⟩ :=
    composes_of_compile listsOwn compiled
  exact composes.wellFormed collected listsOwn isSource
    (CatalogBuilder.mem_of_table_eq_ok isSource).2 isHere

/-- Whatever plan a query compiles to for a store, the store has a form of it to run. A store of
tables has a statement, under any naming. A store without foreign keys has a pipeline on the
collection of the source, and reads a key for each column. -/
theorem rendered_of_compile {builder : CatalogBuilder} (built : builder.Built)
    (databaseId : Int) (maxRows : Option Nat) (query : Query) :
    (∀ naming plan,
      query.compile builder.catalog (.relational naming) databaseId maxRows = .ok plan →
        ∃ statement, Relational.statementOfPlan naming plan = .ok statement) ∧
    (∀ capabilities plan, capabilities.supportsForeignKeys = false →
      query.compile builder.catalog capabilities databaseId maxRows = .ok plan →
        builder.catalog.table query.sourceTable = .ok plan.source ∧
        ∃ pipeline keys, pipelineOfPlan plan = .ok pipeline ∧
          pipeline.collection = plan.source.name ∧
          plan.columns.mapM outputKey = .ok keys ∧ keys.length = plan.columns.length) := by
  constructor
  · intro naming plan compiled
    have wellFormed := wellFormed_of_compile built.listsOwn compiled
    exact wellFormed.arranged.exists_statement naming
  · intro capabilities plan unsupported compiled
    have wellFormed := wellFormed_of_compile built.listsOwn compiled
    have noJoins := wellFormed.unsupported unsupported
    have direct : ∀ field ∈ plan.fields, field.isJoined = false := by
      intro field isField
      exact (wellFormed.reaches field isField).isJoined_eq_false noJoins
    obtain ⟨pipeline, keys, piped, keyed⟩ := wellFormed.arranged.exists_pipeline noJoins direct
    have sameLength := congrArg List.length (Outcome.mapM_eq_ok_iff.mp keyed)
    simp only [List.length_map] at sameLength
    exact ⟨wellFormed.source.1, pipeline, keys, piped, (exists_stages_of_pipeline piped).1, keyed,
      sameLength.symm⟩

/-- The number of venues in each category, for those that are not free. -/
def pricedByCategory : Query where
  sourceTable := 2
  filter := some (.compare .greater (.direct 5) (.whole 0))
  aggregation := .count
  breakout := [.direct 4]
  orderBy := [⟨.direct 4, .descending⟩]
  fields := []
  limit := none
  page := some ⟨2, 10⟩

theorem venues_rendered :
    (∃ plan statement,
      pricesByCategory.compile venueCatalog.catalog (.relational .upperCase) 1 (some 100) =
        .ok plan ∧ Relational.statementOfPlan .upperCase plan = .ok statement) ∧
    (∃ plan pipeline,
      pricedByCategory.compile venueCatalog.catalog .document 1 (some 100) = .ok plan ∧
        pipelineOfPlan plan = .ok pipeline ∧ pipeline.collection = "venues") := by
  constructor
  · have compiles : (pricesByCategory.compile venueCatalog.catalog (.relational .upperCase) 1
        (some 100)).isOk = true := by
      cbv
    obtain ⟨plan, compiled⟩ := Outcome.exists_of_isOk compiles
    obtain ⟨statement, written⟩ :=
      (rendered_of_compile venueCatalog_built 1 (some 100) pricesByCategory).1 _ plan compiled
    exact ⟨plan, statement, compiled, written⟩
  · have compiles : (pricedByCategory.compile venueCatalog.catalog .document 1
        (some 100)).isOk = true := by
      cbv
    obtain ⟨plan, compiled⟩ := Outcome.exists_of_isOk compiles
    obtain ⟨isSource, pipeline, keys, piped, named, _⟩ :=
      (rendered_of_compile venueCatalog_built 1 (some 100) pricedByCategory).2 .document plan rfl
        compiled
    have isVenues : (venueCatalog.catalog.table 2).map Table.name = .ok "venues" := rfl
    simp only [pricedByCategory] at isSource
    simp only [isSource, Except.map, Except.ok.injEq] at isVenues
    exact ⟨plan, pipeline, compiled, piped, named.trans isVenues⟩

end Query

/-- A plan for a dataset is well-formed over its catalog. -/
theorem Dataset.wellFormed_of_compile {dataset : Dataset} {capabilities : Capabilities}
    {databaseId : Int} {maxRows : Option Nat} {query : Query} {plan : Plan}
    (compiled : query.compile dataset.catalog capabilities databaseId maxRows = .ok plan) :
    plan.WellFormed dataset.catalog capabilities databaseId query :=
  Query.wellFormed_of_compile dataset.listsOwn_catalog compiled

end CrossQuery
