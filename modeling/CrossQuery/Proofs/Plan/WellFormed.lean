import Mathlib
import CrossQuery.Proofs.Plan.Composed
import CrossQuery.Relational.Selection

/-!
# Plans are well-formed

Whatever query a catalog and a store are given, a plan that comes of it names only fields that its
source and its joins provide, sorts by no field twice, and has the columns that are asked for. An
aggregation is sorted by exactly what it is broken out by, and rows that are sorted at all are
sorted by the primary key in the end.
-/

set_option autoImplicit false

namespace CrossQuery

namespace Plan

/-- A field of the source of a plan, or of a table that the source refers to by a key. Exactly one
join is by that key, and onto the primary key of that table. -/
inductive Reaches (plan : Plan) (catalog : Catalog) : PlanField → Prop where
  | direct {field : Field} :
      catalog.field field.id = .ok field → field.tableId = plan.source.id →
      Reaches plan catalog (.direct field plan.source)
  | through {field key targetKey : Field} {target : Table} :
      catalog.field field.id = .ok field → field.tableId = target.id →
      catalog.field key.id = .ok key → key.tableId = plan.source.id →
      key.target = some target.id → catalog.table target.id = .ok target →
      catalog.primaryKey target.id = .ok (some targetKey) →
      targetKey.tableId = target.id → targetKey.isPrimaryKey = true →
      (plan.joins.filter fun join => join.key.id == key.id) = [⟨key, target, targetKey⟩] →
      Reaches plan catalog ⟨field, target, some key⟩

/-- A plan that aggregates: a column for each breakout field and one for the aggregate, sorted by
the breakout fields. -/
structure Aggregates (plan : Plan) (query : Query) (kind : AggregateKind) : Prop where
  columns : ∃ source, plan.columns = plan.breakout.map .field ++ [.aggregate kind source] ∧
    source.map PlanField.ref = query.aggregation.source? ∧ (source = none ↔ kind = .count) ∧
    (kind = .sum ∨ kind = .average →
      ∀ field, source = some field → field.field.baseType.isNumeric = true)
  breakout : plan.breakout.map PlanField.ref = query.breakout
  distinct : (plan.breakout.map PlanField.ref).Nodup
  orderBy : (plan.orderBy.map PlanOrder.field).Perm plan.breakout

/-- A plan that lists rows: a column for each field that is asked for, or for all of the source,
sorted as asked for and then by the primary key. -/
structure Lists (plan : Plan) (catalog : Catalog) (query : Query) : Prop where
  aggregate : plan.isAggregated = false
  breakout : query.breakout = [] ∧ plan.breakout = []
  columns :
    (query.fields = [] ∧ ∃ fields, catalog.fields plan.source.id = .ok fields ∧
      plan.columns = fields.map fun field => .field (.direct field plan.source)) ∨
    (query.fields ≠ [] ∧ ∃ fields : List PlanField, plan.columns = fields.map .field ∧
      fields.map PlanField.ref = query.fields)
  orderBy : ∀ ref, ref ∈ plan.orderBy.map PlanOrder.ref ↔
    ref ∈ query.orderBy.map OrderKey.field ∨ (query.orderBy ≠ [] ∧
      ∃ key, catalog.primaryKey plan.source.id = .ok (some key) ∧ ref = .direct key.id)

/-- A plan that fits the catalog and the capabilities of the store, and answers the query. -/
structure WellFormed (plan : Plan) (catalog : Catalog) (capabilities : Capabilities)
    (databaseId : Int) (query : Query) : Prop where
  source : catalog.table query.sourceTable = .ok plan.source ∧ plan.source.id = query.sourceTable
  database : plan.source.databaseId = databaseId ∧ plan.databaseId = databaseId
  reaches : ∀ field ∈ plan.fields, plan.Reaches catalog field
  joins : (plan.joins.map fun join => join.key.id).Nodup
  unsupported : capabilities.supportsForeignKeys = false → plan.joins = []
  orderBy : (plan.orderBy.map PlanOrder.ref).Nodup
  aggregates : ∀ kind ref, CompileContext.aggregateOf query.aggregation = some (kind, ref) →
    plan.Aggregates query kind
  lists : query.aggregation = .rows → plan.Lists catalog query

end Plan

namespace CompileContext

variable {context : CompileContext} {joins : List PlanJoin} {query : Query}
  {databaseId : Int} {plan : Plan}

/-- A field that is resolved is in reach of the plan. -/
theorem Composes.reaches (composes : context.Composes joins query databaseId plan)
    (collected : context.Collected joins) (listsOwn : context.catalog.ListsOwn)
    {field : PlanField} (resolved : context.Resolved joins field) :
    plan.Reaches context.catalog field := by
  cases resolved with
  | direct found own =>
      rw [← composes.source] at own ⊢
      exact .direct found own
  | @through field join member found own =>
      have isJoin := collected.each join member
      obtain ⟨_, targetOwn, isPrimary⟩ := listsOwn.field_of_primaryKey isJoin.targetKey
      have here := isJoin.ofSource
      rw [← composes.source] at here
      refine .through found own isJoin.key here isJoin.refers isJoin.target isJoin.targetKey
        targetOwn isPrimary ?_
      rw [composes.joined]
      exact filter_key_of_nodup collected.distinct member

/-- An aggregation is sorted by its breakout fields. -/
theorem Composes.orderBy_perm (composes : context.Composes joins query databaseId plan)
    (collected : context.Collected joins)
    (aggregated : (aggregateOf query.aggregation).isSome = true)
    (distinct : (plan.breakout.map PlanField.ref).Nodup) :
    (plan.orderBy.map PlanOrder.field).Perm plan.breakout := by
  have sortedDistinct : ((plan.orderBy.map PlanOrder.field).map PlanField.ref).Nodup := by
    rw [List.map_map]
    exact composes.keyed.distinct
  rw [List.perm_ext_iff_of_nodup (nodup_of_map sortedDistinct) (nodup_of_map distinct)]
  intro field
  have resolvedBreakout := composes.selects.breakout_resolved
  constructor
  · intro sorted
    obtain ⟨key, isKey, rfl⟩ := List.mem_map.mp sorted
    have isBreakout : key.ref ∈ plan.breakout.map PlanField.ref := by
      rcases (composes.named key.ref).mp (List.mem_map_of_mem isKey) with
        (asked | broken) | ⟨rows, -⟩
      · obtain ⟨other, isOther, same⟩ := List.mem_map.mp asked
        exact same ▸ composes.allowed aggregated other isOther
      · exact broken
      · rw [aggregated] at rows
        cases rows
    obtain ⟨other, isOther, same⟩ := List.mem_map.mp isBreakout
    rw [← Resolved.eq_of_ref collected (resolvedBreakout other isOther)
      (composes.keyed.resolved key isKey) same]
    exact isOther
  · intro broken
    have isSorted := (composes.named field.ref).mpr (.inl (.inr (List.mem_map_of_mem broken)))
    obtain ⟨key, isKey, same⟩ := List.mem_map.mp isSorted
    rw [← Resolved.eq_of_ref collected (composes.keyed.resolved key isKey)
      (resolvedBreakout field broken) same]
    exact List.mem_map_of_mem isKey

theorem aggregateOf_eq {aggregation : Aggregation} {kind : AggregateKind} {ref : Option FieldRef}
    (isAggregate : aggregateOf aggregation = some (kind, ref)) :
    aggregation.source? = ref ∧ (ref = none ↔ kind = .count) := by
  refine ⟨aggregateOf_source isAggregate, ?_⟩
  cases aggregation <;> cases isAggregate <;> simp

/-- An aggregation is composed of its breakout fields and one aggregate. -/
theorem Composes.aggregates (composes : context.Composes joins query databaseId plan)
    (collected : context.Collected joins) {kind : AggregateKind} {ref : Option FieldRef}
    (isAggregate : aggregateOf query.aggregation = some (kind, ref)) :
    plan.Aggregates query kind := by
  have sorted := composes.orderBy_perm collected (by rw [isAggregate]; rfl)
  have selects := composes.selects
  generalize isColumns : plan.columns = columns at selects
  generalize isBreakout : plan.breakout = breakout at selects sorted
  cases selects with
  | all isRows =>
      rw [isAggregate] at isRows
      cases isRows
  | rows isRows =>
      rw [isAggregate] at isRows
      cases isRows
  | @aggregate otherKind otherRef _ source isOther areRefs distinct _ isSource sourceResolved =>
      obtain ⟨rfl, rfl⟩ := Prod.mk.inj (Option.some.inj (isAggregate.symm.trans isOther))
      obtain ⟨sameSource, countOnly⟩ := aggregateOf_eq isAggregate
      constructor
      · refine ⟨source, ?_, isSource.trans sameSource.symm, ?_, ?_⟩
        · rw [isColumns, isBreakout]
        · rw [← countOnly, ← isSource, Option.map_eq_none_iff]
        · exact fun needsNumber field same => (sourceResolved field same).2 needsNumber
      · rw [isBreakout]
        exact areRefs
      · rw [isBreakout]
        exact distinct
      · rw [isBreakout]
        exact sorted distinct

/-- A list of rows is composed of the fields that are asked for. -/
theorem Composes.lists (composes : context.Composes joins query databaseId plan)
    (isRows : query.aggregation = .rows) : plan.Lists context.catalog query := by
  have noAggregate : aggregateOf query.aggregation = none := by
    rw [isRows]
    rfl
  have notAggregated := composes.selects.isAggregated_eq
  rw [noAggregate] at notAggregated
  have named := composes.named
  have selects := composes.selects
  have bare : query.breakout = [] ∧ plan.breakout = [] := by
    generalize plan.columns = columns at selects
    generalize plan.breakout = breakout at selects ⊢
    cases selects with
    | all _ noBreakout => exact ⟨noBreakout, rfl⟩
    | rows _ noBreakout => exact ⟨noBreakout, rfl⟩
    | aggregate isAggregate =>
        rw [noAggregate] at isAggregate
        cases isAggregate
  refine ⟨notAggregated, bare, ?_, fun ref => ?_⟩
  · rw [composes.source]
    rw [bare.2] at selects
    generalize plan.columns = columns at selects ⊢
    cases selects with
    | all _ _ noFields listed => exact .inl ⟨noFields, _, listed, rfl⟩
    | rows _ _ someFields areRefs => exact .inr ⟨someFields, _, rfl, areRefs⟩
    | aggregate isAggregate =>
        rw [noAggregate] at isAggregate
        cases isAggregate
  · rw [named, bare.2, composes.source, noAggregate]
    simp

/-- A plan that is composed of its parts is well-formed. -/
theorem Composes.wellFormed (composes : context.Composes joins query databaseId plan)
    (collected : context.Collected joins) (listsOwn : context.catalog.ListsOwn)
    (isSource : context.catalog.table query.sourceTable = .ok context.source)
    (hasId : context.source.id = query.sourceTable)
    (isHere : context.source.databaseId = databaseId) :
    plan.WellFormed context.catalog context.capabilities databaseId query := by
  constructor
  · rw [composes.source]
    exact ⟨isSource, hasId⟩
  · rw [composes.source]
    exact ⟨isHere, composes.database⟩
  · intro field member
    exact composes.reaches collected listsOwn (composes.fields_resolved listsOwn field member)
  · rw [composes.joined]
    exact collected.distinct
  · rw [composes.joined]
    exact collected.supported
  · exact composes.keyed.distinct
  · exact fun kind ref isAggregate => composes.aggregates collected isAggregate
  · exact composes.lists

end CompileContext

variable {catalog : Catalog} {capabilities : Capabilities} {databaseId : Int}
  {maxRows : Option Nat} {query : Query} {plan : Plan}

/-- Whatever query a built catalog and a store are given, a plan that comes of it is well-formed. -/
theorem Query.compile_wellFormed {builder : CatalogBuilder} (built : builder.Built)
    (compiled : query.compile builder.catalog capabilities databaseId maxRows = .ok plan) :
    plan.WellFormed builder.catalog capabilities databaseId query := by
  obtain ⟨source, joins, isSource, isHere, collected, composes⟩ :=
    composes_of_compile built.listsOwn compiled
  exact composes.wellFormed collected built.listsOwn isSource
    (CatalogBuilder.mem_of_table_eq_ok isSource).2 isHere

/-- Venues, each with a price and a category. The category is added to the venues before it refers
to the table of categories, and a field is added to a table that never is. -/
def venueCatalog : CatalogBuilder :=
  let plain (name : String) (type : BaseType) : FieldSpec := ⟨name, type, none, none, none⟩
  let categories := (CatalogBuilder.empty.addTable 1 "categories").2
  let categoryFields := ((categories.addField 1 ⟨"id", .integer, some .id, none, none⟩).2.addField 1
    (plain "name" .text)).2
  let venues := (categoryFields.addTable 1 "venues").2
  let venueFields := ((venues.addField 2 ⟨"id", .integer, some .id, none, none⟩).2.addField 2
    (plain "category_id" .integer)).2
  let priced := ((venueFields.addField 2 (plain "price" .integer)).2.addField 7
    (plain "lost" .text)).2
  priced.setForeignKey 4 1

theorem venueCatalog_built : venueCatalog.Built := by
  apply CatalogBuilder.Built.setForeignKey
  apply CatalogBuilder.Built.addField
  apply CatalogBuilder.Built.addField
  apply CatalogBuilder.Built.addField
  apply CatalogBuilder.Built.addField
  apply CatalogBuilder.Built.addTable
  apply CatalogBuilder.Built.addField
  apply CatalogBuilder.Built.addField
  apply CatalogBuilder.Built.addTable
  exact .empty

/-- The sum of prices of the venues of each category, by its name. -/
def pricesByCategory : Query where
  sourceTable := 2
  filter := some (.not (.compare .equal (.through 4 1) (.whole 3)))
  aggregation := .sum (.direct 5)
  breakout := [.through 4 2, .direct 4]
  orderBy := [⟨.direct 4, .descending⟩]
  fields := []
  limit := none
  page := none

theorem pricesByCategory_wellFormed :
    ∃ plan, pricesByCategory.compile venueCatalog.catalog (.relational .upperCase) 1 (some 100) =
        .ok plan ∧
      plan.WellFormed venueCatalog.catalog (.relational .upperCase) 1 pricesByCategory := by
  have compiles : (pricesByCategory.compile venueCatalog.catalog (.relational .upperCase) 1
      (some 100)).isOk = true := by
    cbv
  cases compiled : pricesByCategory.compile venueCatalog.catalog (.relational .upperCase) 1
      (some 100) with
  | error failure =>
      rw [compiled] at compiles
      cases compiles
  | ok plan => exact ⟨plan, rfl, Query.compile_wellFormed venueCatalog_built compiled⟩

end CrossQuery
