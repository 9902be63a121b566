import CrossQuery.Proofs.Plan.Resolved

/-!
# What plans are composed of

The columns, the breakout fields and the order of a plan, as the clauses of a query ask for them.
Their fields are resolved by the joins that the whole compilation makes.
-/

set_option autoImplicit false

namespace CrossQuery

/-- The reference that the field of a key answers. -/
def PlanOrder.ref (key : PlanOrder) : FieldRef :=
  key.field.ref

def PlanColumn.fields : PlanColumn → List PlanField
  | .field shown => [shown]
  | .aggregate _ source => source.toList

/-- The fields that a plan names in any of its parts. -/
def Plan.fields (plan : Plan) : List PlanField :=
  plan.columns.flatMap PlanColumn.fields ++ (plan.filter.map Predicate.fields).getD [] ++
    plan.breakout ++ plan.orderBy.map PlanOrder.field

namespace Plan

variable {plan : Plan} {field : PlanField}

theorem mem_fields_of_column {column : PlanColumn} (isColumn : column ∈ plan.columns)
    (shown : field ∈ column.fields) : field ∈ plan.fields := by
  have isShown : field ∈ plan.columns.flatMap PlanColumn.fields :=
    List.mem_flatMap.mpr ⟨column, isColumn, shown⟩
  exact List.mem_append_left _ (List.mem_append_left _ (List.mem_append_left _ isShown))

theorem mem_fields_of_columns {asked : List PlanField}
    (isAsked : plan.columns = asked.map .field) (member : field ∈ asked) :
    field ∈ plan.fields := by
  have isColumn : PlanColumn.field field ∈ plan.columns := by
    rw [isAsked]
    exact List.mem_map_of_mem member
  exact mem_fields_of_column isColumn (List.mem_singleton_self field)

theorem mem_fields_of_filter {predicate : Predicate} (isFilter : plan.filter = some predicate)
    (tested : field ∈ predicate.fields) : field ∈ plan.fields := by
  have isTested : field ∈ (plan.filter.map Predicate.fields).getD [] := by
    rw [isFilter]
    exact tested
  exact List.mem_append_left _ (List.mem_append_left _ (List.mem_append_right _ isTested))

theorem mem_fields_of_order {order : PlanOrder} (member : order ∈ plan.orderBy) :
    order.field ∈ plan.fields :=
  List.mem_append_right _ (List.mem_map_of_mem member)

end Plan

namespace CompileContext

variable {context : CompileContext} {joins more : List PlanJoin} {query : Query}

theorem mem_appendKey_ref {keys : List PlanOrder} {key : PlanOrder} {ref : FieldRef} :
    ref ∈ (appendKey keys key).map PlanOrder.ref ↔
      ref ∈ keys.map PlanOrder.ref ∨ ref = key.ref := by
  unfold appendKey
  split
  · next present =>
      obtain ⟨other, member, same⟩ := List.any_eq_true.mp present
      have isKey : key.ref ∈ keys.map PlanOrder.ref :=
        List.mem_map.mpr ⟨other, member, PlanField.sameAs_iff.mp same⟩
      constructor
      · exact .inl
      · rintro (isThere | rfl)
        · exact isThere
        · exact isKey
  · rw [List.map_append, List.mem_append, List.map_singleton, List.mem_singleton]

/-- Keys by resolved fields, each once. -/
structure Keyed (context : CompileContext) (joins : List PlanJoin) (keys : List PlanOrder) :
    Prop where
  resolved : ∀ key ∈ keys, context.Resolved joins key.field
  distinct : (keys.map PlanOrder.ref).Nodup

theorem keyed_nil : context.Keyed joins [] :=
  ⟨fun _ member => absurd member List.not_mem_nil, List.nodup_nil⟩

theorem Keyed.mono {keys : List PlanOrder} (keyed : context.Keyed joins keys)
    (subset : joins ⊆ more) : context.Keyed more keys :=
  ⟨fun key member => (keyed.resolved key member).mono subset, keyed.distinct⟩

theorem Keyed.appendKey {keys : List PlanOrder} {key : PlanOrder}
    (keyed : context.Keyed joins keys) (resolved : context.Resolved joins key.field) :
    context.Keyed joins (appendKey keys key) := by
  constructor
  · intro other member
    rcases mem_or_eq_of_mem_appendKey member with earlier | rfl
    · exact keyed.resolved other earlier
    · exact resolved
  · exact nodup_appendKey keyed.distinct fun other same => PlanField.sameAs_iff.mpr same

/-- Keys with fields behind them are keys by the references of both. -/
theorem Keyed.foldl {fields : List PlanField} {keys : List PlanOrder}
    (keyed : context.Keyed joins keys)
    (resolved : ∀ field ∈ fields, context.Resolved joins field) :
    context.Keyed joins
        (fields.foldl (fun keys field => CompileContext.appendKey keys ⟨field, .ascending⟩) keys) ∧
      ∀ ref, ref ∈ (fields.foldl
          (fun keys field => CompileContext.appendKey keys ⟨field, .ascending⟩) keys).map
            PlanOrder.ref ↔
        ref ∈ keys.map PlanOrder.ref ∨ ref ∈ fields.map PlanField.ref := by
  induction fields generalizing keys with
  | nil => exact ⟨keyed, fun ref => by simp⟩
  | cons field rest ih =>
      obtain ⟨first, others⟩ := List.forall_mem_cons.mp resolved
      have longer : context.Keyed joins (CompileContext.appendKey keys ⟨field, .ascending⟩) :=
        keyed.appendKey first
      obtain ⟨allKeyed, named⟩ := ih longer others
      refine ⟨allKeyed, fun ref => ?_⟩
      rw [List.foldl_cons, named, mem_appendKey_ref, List.map_cons, List.mem_cons, or_assoc]
      rfl

/-- What is sorted by is what is asked for. In an aggregation these are breakout fields. -/
theorem extends_lowerOrder {aggregated : Bool} {breakout : List PlanField}
    {orderBy : List OrderKey} {keys : List PlanOrder} (keyed : context.Keyed joins keys) :
    context.Extends joins (context.lowerOrder aggregated breakout keys orderBy)
      fun after ordered => context.Keyed after ordered ∧
        (∀ ref, ref ∈ ordered.map PlanOrder.ref ↔
          ref ∈ keys.map PlanOrder.ref ∨ ref ∈ orderBy.map OrderKey.field) ∧
        (aggregated = true → ∀ key ∈ orderBy, key.field ∈ breakout.map PlanField.ref) := by
  induction orderBy generalizing joins keys with
  | nil =>
      refine extends_pure ⟨keyed, fun ref => by simp, ?_⟩
      exact fun _ key member => absurd member List.not_mem_nil
  | cons key rest ih =>
      rw [lowerOrder]
      refine extends_bind (extends_resolve "order_by" key.field) fun field more kept found => ?_
      obtain ⟨resolved, isRef⟩ := found
      refine extends_check fun passes => ?_
      have longer : context.Keyed more (CompileContext.appendKey keys ⟨field, key.direction⟩) :=
        (keyed.mono kept).appendKey resolved
      refine (ih longer).imp fun after ordered _ _ described => ?_
      obtain ⟨allKeyed, named, allowed⟩ := described
      refine ⟨allKeyed, fun ref => ?_, fun isAggregated => ?_⟩
      · rw [named, mem_appendKey_ref, List.map_cons, List.mem_cons, or_assoc, PlanOrder.ref, isRef]
      · have first : key.field ∈ breakout.map PlanField.ref := by
          rw [← isRef, ← PlanField.any_sameAs_iff]
          simpa [isAggregated] using passes
        exact List.forall_mem_cons.mpr ⟨first, allowed isAggregated⟩

theorem extends_lowerBreakout {refs : List FieldRef} {breakout : List PlanField}
    (resolved : ∀ field ∈ breakout, context.Resolved joins field)
    (distinct : (breakout.map PlanField.ref).Nodup) :
    context.Extends joins (context.lowerBreakout breakout refs) fun after fields =>
      (∀ field ∈ fields, context.Resolved after field) ∧ (fields.map PlanField.ref).Nodup ∧
        fields.map PlanField.ref = breakout.map PlanField.ref ++ refs := by
  induction refs generalizing joins breakout with
  | nil => exact extends_pure ⟨resolved, distinct, (List.append_nil _).symm⟩
  | cons ref rest ih =>
      rw [lowerBreakout]
      refine extends_bind (extends_resolve "breakout" ref) fun field more kept found => ?_
      obtain ⟨fieldResolved, isRef⟩ := found
      refine extends_check fun passes => ?_
      have fresh : field.ref ∉ breakout.map PlanField.ref := by
        rwa [← PlanField.any_sameAs_iff]
      have longer : ∀ other ∈ breakout ++ [field], context.Resolved more other := by
        intro other member
        rcases List.mem_append.mp member with earlier | last
        · exact (resolved other earlier).mono kept
        · exact List.mem_singleton.mp last ▸ fieldResolved
      have stillDistinct : ((breakout ++ [field]).map PlanField.ref).Nodup := by
        rw [List.map_append, List.map_singleton, List.nodup_append]
        refine ⟨distinct, by simp, ?_⟩
        rintro other member last isLast rfl
        exact fresh (List.mem_singleton.mp isLast ▸ member)
      refine (ih longer stillDistinct).imp fun after fields _ _ described => ?_
      obtain ⟨allResolved, allDistinct, areRefs⟩ := described
      refine ⟨allResolved, allDistinct, ?_⟩
      rw [areRefs, List.map_append, List.map_singleton, isRef, List.append_assoc,
        List.singleton_append]

/-- The field that is aggregated, with numbers for sums and averages. -/
theorem extends_lowerSource (kind : AggregateKind) (ref : Option FieldRef) :
    context.Extends joins (context.lowerSource kind ref) fun after source =>
      source.map PlanField.ref = ref ∧
        ∀ field, source = some field → context.Resolved after field ∧
          (kind = .sum ∨ kind = .average → field.field.baseType.isNumeric = true) := by
  cases ref with
  | none =>
      refine extends_pure ⟨rfl, fun field same => ?_⟩
      cases same
  | some ref =>
      refine extends_bind (extends_resolve "aggregation" ref) fun field more _ found => ?_
      obtain ⟨resolved, isRef⟩ := found
      refine extends_check fun passes => ?_
      refine extends_pure ⟨congrArg some isRef, fun other same => ?_⟩
      obtain rfl := Option.some.inj same
      refine ⟨resolved, fun needsNumber => ?_⟩
      exact Bool.eq_true_of_not_eq_false fun notNumeric => passes ⟨needsNumber, notNumeric⟩

/-- The columns and the breakout fields that answer a query. -/
inductive Selects (context : CompileContext) (joins : List PlanJoin) (query : Query) :
    List PlanColumn → List PlanField → Prop where
  | all {fields : List Field} :
      aggregateOf query.aggregation = none → query.breakout = [] → query.fields = [] →
      context.catalog.fields context.source.id = .ok fields →
      Selects context joins query
        (fields.map fun field => .field (.direct field context.source)) []
  | rows {fields : List PlanField} :
      aggregateOf query.aggregation = none → query.breakout = [] → query.fields ≠ [] →
      fields.map PlanField.ref = query.fields →
      (∀ field ∈ fields, context.Resolved joins field) →
      Selects context joins query (fields.map .field) []
  | aggregate {kind : AggregateKind} {ref : Option FieldRef} {breakout : List PlanField}
      {source : Option PlanField} :
      aggregateOf query.aggregation = some (kind, ref) →
      breakout.map PlanField.ref = query.breakout → (breakout.map PlanField.ref).Nodup →
      (∀ field ∈ breakout, context.Resolved joins field) → source.map PlanField.ref = ref →
      (∀ field, source = some field → context.Resolved joins field ∧
        (kind = .sum ∨ kind = .average → field.field.baseType.isNumeric = true)) →
      Selects context joins query (breakout.map .field ++ [.aggregate kind source]) breakout

theorem Selects.mono {columns : List PlanColumn} {breakout : List PlanField}
    (selects : context.Selects joins query columns breakout) (subset : joins ⊆ more) :
    context.Selects more query columns breakout := by
  cases selects with
  | all isRows noBreakout noFields listed => exact .all isRows noBreakout noFields listed
  | rows isRows noBreakout someFields areRefs resolved =>
      exact .rows isRows noBreakout someFields areRefs
        fun field member => (resolved field member).mono subset
  | aggregate isAggregate areRefs distinct resolved isSource sourceResolved =>
      refine .aggregate isAggregate areRefs distinct
        (fun field member => (resolved field member).mono subset) isSource ?_
      intro field same
      obtain ⟨fieldResolved, numeric⟩ := sourceResolved field same
      exact ⟨fieldResolved.mono subset, numeric⟩

theorem Selects.breakout_resolved {columns : List PlanColumn} {breakout : List PlanField}
    (selects : context.Selects joins query columns breakout) :
    ∀ field ∈ breakout, context.Resolved joins field := by
  cases selects with
  | all => exact fun field member => absurd member List.not_mem_nil
  | rows => exact fun field member => absurd member List.not_mem_nil
  | aggregate _ _ _ resolved => exact resolved

/-- The fields of the columns are resolved. -/
theorem Selects.columns_resolved {columns : List PlanColumn} {breakout : List PlanField}
    (selects : context.Selects joins query columns breakout)
    (listsOwn : context.catalog.ListsOwn) :
    ∀ column ∈ columns, ∀ field ∈ column.fields, context.Resolved joins field := by
  cases selects with
  | all _ _ _ listed =>
      intro column member field isField
      obtain ⟨own, isOwn, rfl⟩ := List.mem_map.mp member
      obtain rfl := List.mem_singleton.mp isField
      obtain ⟨found, here⟩ := listsOwn.field_of_mem listed isOwn
      exact .direct found here
  | rows _ _ _ _ resolved =>
      intro column member field isField
      obtain ⟨asked, isAsked, rfl⟩ := List.mem_map.mp member
      obtain rfl := List.mem_singleton.mp isField
      exact resolved _ isAsked
  | aggregate _ _ _ resolved _ sourceResolved =>
      intro column member field isField
      rcases List.mem_append.mp member with isBreakout | isLast
      · obtain ⟨broken, isBroken, rfl⟩ := List.mem_map.mp isBreakout
        obtain rfl := List.mem_singleton.mp isField
        exact resolved _ isBroken
      · obtain rfl := List.mem_singleton.mp isLast
        exact (sourceResolved field (Option.mem_toList.mp isField)).1

theorem Selects.isAggregated_eq {columns : List PlanColumn} {breakout : List PlanField}
    (selects : context.Selects joins query columns breakout) :
    columns.any PlanColumn.isAggregate = (aggregateOf query.aggregation).isSome := by
  cases selects with
  | all isRows => simp [isRows, PlanColumn.isAggregate]
  | rows isRows => simp [isRows, PlanColumn.isAggregate]
  | aggregate isAggregate => simp [isAggregate, PlanColumn.isAggregate]

/-- The fields that are asked for, each resolved. -/
theorem extends_mapM_resolve (refs : List FieldRef) :
    context.Extends joins
      (refs.mapM fun ref => do pure (.field (← context.resolve "fields" ref)))
      fun after columns => ∃ fields : List PlanField, columns = fields.map PlanColumn.field ∧
        fields.map PlanField.ref = refs ∧ ∀ field ∈ fields, context.Resolved after field := by
  induction refs generalizing joins with
  | nil =>
      exact extends_pure ⟨[], rfl, rfl, fun field member => absurd member List.not_mem_nil⟩
  | cons ref rest ih =>
      rw [List.mapM_cons]
      have first : context.Extends joins
          (do pure (PlanColumn.field (← context.resolve "fields" ref))) fun after column =>
            ∃ field, column = .field field ∧ context.Resolved after field ∧ field.ref = ref := by
        refine extends_bind (extends_resolve "fields" ref) fun field more _ found => ?_
        exact extends_pure ⟨field, rfl, found⟩
      refine extends_bind first fun column more _ isColumn => ?_
      obtain ⟨field, rfl, resolved, isRef⟩ := isColumn
      refine extends_bind ih fun columns most kept areColumns => ?_
      obtain ⟨fields, rfl, areRefs, allResolved⟩ := areColumns
      refine extends_pure ⟨field :: fields, rfl, ?_, ?_⟩
      · rw [List.map_cons, isRef, areRefs]
      · exact List.forall_mem_cons.mpr ⟨resolved.mono kept, allResolved⟩

theorem extends_lowerRows (isRows : aggregateOf query.aggregation = none)
    (noBreakout : query.breakout = []) :
    context.Extends joins (context.lowerRows query) fun after columns =>
      context.Selects after query columns [] := by
  unfold lowerRows
  split
  · next noFields =>
      refine extends_yields_bind yields_found fun fields listed => ?_
      exact extends_pure (.all isRows noBreakout (List.isEmpty_iff.mp noFields) listed)
  · next someFields =>
      refine (extends_mapM_resolve query.fields).imp fun after columns _ _ described => ?_
      obtain ⟨fields, rfl, areRefs, resolved⟩ := described
      refine .rows isRows noBreakout (fun noFields => ?_) areRefs resolved
      exact someFields (List.isEmpty_iff.mpr noFields)

theorem extends_lowerColumns :
    context.Extends joins (context.lowerColumns query) fun after selected =>
      context.Selects after query selected.1 selected.2 := by
  unfold lowerColumns
  cases isAggregate : aggregateOf query.aggregation with
  | none =>
      refine extends_check fun passes => ?_
      have noBreakout : query.breakout = [] := by simpa using passes
      refine extends_bind (extends_lowerRows isAggregate noBreakout) ?_
      exact fun columns more _ selects => extends_pure selects
  | some aggregate =>
      obtain ⟨kind, ref⟩ := aggregate
      refine extends_check fun _ => ?_
      have noneResolved : ∀ field ∈ ([] : List PlanField), context.Resolved joins field :=
        fun field member => absurd member List.not_mem_nil
      refine extends_bind (extends_lowerBreakout noneResolved List.nodup_nil)
        fun breakout more _ described => ?_
      obtain ⟨resolved, distinct, areRefs⟩ := described
      refine extends_bind (extends_lowerSource kind ref) fun source most kept described => ?_
      obtain ⟨isSource, sourceResolved⟩ := described
      refine extends_pure (.aggregate isAggregate areRefs distinct ?_ isSource sourceResolved)
      exact fun field member => (resolved field member).mono kept

/-- Rows that are sorted at all are sorted by the primary key, too. -/
theorem extends_settle (listsOwn : context.catalog.ListsOwn) {aggregated : Bool}
    {keys : List PlanOrder} (keyed : context.Keyed joins keys) :
    context.Extends joins (context.settle aggregated keys) fun after settled =>
      context.Keyed after settled ∧ ∀ ref, ref ∈ settled.map PlanOrder.ref ↔
        ref ∈ keys.map PlanOrder.ref ∨ (aggregated = false ∧ keys ≠ [] ∧
          ∃ key, context.catalog.primaryKey context.source.id = .ok (some key) ∧
            ref = .direct key.id) := by
  unfold settle
  split
  · next untied =>
      have breaks : aggregated = false ∧ keys ≠ [] := by simpa using untied
      refine extends_yields_bind yields_found fun primary isPrimary => ?_
      cases primary with
      | none => exact extends_pure ⟨keyed, fun ref => by simp [isPrimary]⟩
      | some key =>
          obtain ⟨found, own, _⟩ := listsOwn.field_of_primaryKey isPrimary
          refine extends_pure ⟨keyed.appendKey (.direct found own), fun ref => ?_⟩
          rw [mem_appendKey_ref]
          simp [breaks, isPrimary, PlanOrder.ref, PlanField.ref, PlanField.direct]
  · next tied =>
      refine extends_pure ⟨keyed, fun ref => ⟨.inl, ?_⟩⟩
      rintro (isThere | ⟨notAggregated, someKeys, -⟩)
      · exact isThere
      · exact absurd (by simp [notAggregated, someKeys]) tied

/-- The parts of a plan, with their fields resolved by its joins. -/
structure Composes (context : CompileContext) (joins : List PlanJoin) (query : Query)
    (databaseId : Int) (plan : Plan) : Prop where
  source : plan.source = context.source
  database : plan.databaseId = databaseId
  joined : plan.joins = joins
  filter : context.ResolvedFilter joins plan.filter
  selects : context.Selects joins query plan.columns plan.breakout
  keyed : context.Keyed joins plan.orderBy
  allowed : (aggregateOf query.aggregation).isSome = true →
    ∀ key ∈ query.orderBy, key.field ∈ plan.breakout.map PlanField.ref
  named : ∀ ref, ref ∈ plan.orderBy.map PlanOrder.ref ↔
    (ref ∈ query.orderBy.map OrderKey.field ∨ ref ∈ plan.breakout.map PlanField.ref) ∨
      ((aggregateOf query.aggregation).isSome = false ∧
        (query.orderBy ≠ [] ∨ plan.breakout ≠ []) ∧
        ∃ key, context.catalog.primaryKey context.source.id = .ok (some key) ∧
          ref = .direct key.id)

theorem keys_ne_nil_iff {keys : List PlanOrder} {orderBy : List OrderKey}
    {breakout : List PlanField}
    (named : ∀ ref, ref ∈ keys.map PlanOrder.ref ↔
      ref ∈ orderBy.map OrderKey.field ∨ ref ∈ breakout.map PlanField.ref) :
    keys ≠ [] ↔ orderBy ≠ [] ∨ breakout ≠ [] := by
  constructor
  · intro someKeys
    obtain ⟨key, member⟩ := List.exists_mem_of_ne_nil keys someKeys
    rcases (named key.ref).mp (List.mem_map_of_mem member) with asked | broken
    · obtain ⟨other, isOther, _⟩ := List.mem_map.mp asked
      exact .inl (List.ne_nil_of_mem isOther)
    · obtain ⟨other, isOther, _⟩ := List.mem_map.mp broken
      exact .inr (List.ne_nil_of_mem isOther)
  · rintro (someOrder | someBreakout) rfl
    · obtain ⟨key, member⟩ := List.exists_mem_of_ne_nil orderBy someOrder
      exact absurd ((named key.field).mpr (.inl (List.mem_map_of_mem member))) List.not_mem_nil
    · obtain ⟨field, member⟩ := List.exists_mem_of_ne_nil breakout someBreakout
      exact absurd ((named field.ref).mpr (.inr (List.mem_map_of_mem member))) List.not_mem_nil

/-- What is left of a compilation keeps the filter resolved and composes the plan. -/
theorem extends_finish (listsOwn : context.catalog.ListsOwn) (databaseId : Int)
    (maxRows : Option Nat) {filter : Option Predicate}
    (filtered : context.ResolvedFilter joins filter) :
    context.Extends joins (context.finish databaseId query maxRows filter) fun after plan =>
      context.Composes after query databaseId plan := by
  unfold finish
  refine extends_bind extends_lowerColumns fun selected afterColumns keptColumns selects => ?_
  obtain ⟨columns, breakout⟩ := selected
  refine extends_bind (extends_lowerOrder keyed_nil) fun asked afterOrder keptOrder ordered => ?_
  obtain ⟨askedKeyed, askedNamed, allowed⟩ := ordered
  have stillSelects := selects.mono keptOrder
  obtain ⟨keyed, named⟩ := askedKeyed.foldl stillSelects.breakout_resolved
  simp only [askedNamed, List.map_nil, List.not_mem_nil, false_or] at named
  refine extends_yields_bind (yields_lift fun window made => made) fun window _ => ?_
  refine extends_bind (extends_settle listsOwn keyed) fun keys after kept settled => ?_
  obtain ⟨settledKeyed, settledNamed⟩ := settled
  refine extends_yields_bind yields_get fun joins isJoins => ?_
  rw [selects.isAggregated_eq] at allowed settledNamed
  simp only [named, keys_ne_nil_iff named] at settledNamed
  have keptFilter := List.Subset.trans keptColumns (List.Subset.trans keptOrder kept)
  refine extends_pure ?_
  exact
    { source := rfl
      database := rfl
      joined := isJoins
      filter := filtered.mono keptFilter
      selects := stillSelects.mono kept
      keyed := settledKeyed
      allowed := allowed
      named := settledNamed }

/-- A compilation that starts without joins composes its plan. -/
theorem extends_compile (listsOwn : context.catalog.ListsOwn) (databaseId : Int)
    (maxRows : Option Nat) :
    context.Extends joins (context.compile databaseId query maxRows) fun after plan =>
      context.Composes after query databaseId plan := by
  rw [compile_eq_finish]
  cases query.filter with
  | none =>
      have unfiltered : context.Extends joins (pure none) context.ResolvedFilter :=
        extends_pure fun predicate same => by cases same
      refine extends_bind unfiltered fun filter after _ filtered => ?_
      exact extends_finish listsOwn databaseId maxRows filtered
  | some filter =>
      refine extends_bind (extends_lowerFilter joins filter) fun filter after _ filtered => ?_
      exact extends_finish listsOwn databaseId maxRows filtered

theorem Composes.fields_resolved {databaseId : Int} {plan : Plan}
    (composes : context.Composes joins query databaseId plan)
    (listsOwn : context.catalog.ListsOwn) :
    ∀ field ∈ plan.fields, context.Resolved joins field := by
  intro field member
  simp only [Plan.fields, List.mem_append] at member
  rcases member with ((isColumn | tested) | broken) | sorted
  · obtain ⟨column, isColumn, isField⟩ := List.mem_flatMap.mp isColumn
    exact composes.selects.columns_resolved listsOwn column isColumn field isField
  · cases isFilter : plan.filter with
    | none =>
        rw [isFilter] at tested
        cases tested
    | some predicate =>
        rw [isFilter] at tested
        exact composes.filter predicate isFilter field tested
  · exact composes.selects.breakout_resolved field broken
  · obtain ⟨key, isKey, rfl⟩ := List.mem_map.mp sorted
    exact composes.keyed.resolved key isKey

end CompileContext

theorem Query.composes_of_compile {catalog : Catalog} {capabilities : Capabilities}
    {databaseId : Int} {maxRows : Option Nat} {query : Query} {plan : Plan}
    (listsOwn : catalog.ListsOwn)
    (compiled : query.compile catalog capabilities databaseId maxRows = .ok plan) :
    ∃ source joins, catalog.table query.sourceTable = .ok source ∧
      source.databaseId = databaseId ∧
      (CompileContext.mk catalog capabilities source).Collected joins ∧
      (CompileContext.mk catalog capabilities source).Composes joins query databaseId plan := by
  obtain ⟨source, after, isSource, isHere, run⟩ := run_of_compile compiled
  obtain ⟨collected, _, composes⟩ := CompileContext.extends_compile listsOwn databaseId maxRows
    CompileContext.collected_nil plan after run
  exact ⟨source, after, isSource, isHere, collected, composes⟩

end CrossQuery
