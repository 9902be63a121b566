import CrossQuery.Proofs.Plan.Composed

/-!
# Plans of pages

The plan of a page of sorted rows is the plan of all rows with another window.
-/

set_option autoImplicit false

namespace CrossQuery

/-- A query for all of its rows. -/
def Query.unpaged (query : Query) : Query :=
  { query with limit := none, page := none }

/-- A query for one page of its rows. -/
def Query.atPage (query : Query) (items number : Nat) : Query :=
  { query with page := some ⟨items, number⟩ }

/-- A plan with another window. -/
def Plan.cut (plan : Plan) (offset limit : Option Nat) : Plan :=
  { plan with limit := limit, offset := offset }

/-- The offset that skips a number of rows. -/
def offsetOf (skip : Nat) : Option Nat :=
  if skip > 0 then some skip else none

theorem Page.skip_eq {items number : Nat} (someItems : 0 < items)
    (fits : number * items ≤ offsetBound) :
    (Page.mk items (number + 1)).skip = .ok (number * items) := by
  have counted : ¬(items = 0 ∨ number + 1 = 0) := by omega
  rw [Page.skip, if_neg counted, if_neg (by simpa using fits)]
  simp

namespace CompileContext

variable {context : CompileContext} {query : Query} {databaseId : Int} {plan : Plan}
  {joins after : List PlanJoin} {filter : Option Predicate}

theorem settle_nil {aggregated : Bool} {keys : List PlanOrder}
    (run : context.settle aggregated [] joins = .ok (keys, after)) : keys = [] := by
  rw [settle, List.isEmpty_nil, Bool.not_true, Bool.and_false, if_neg Bool.false_ne_true] at run
  exact (Prod.mk.inj (Except.ok.inj run)).1.symm

/-- A sorted query that compiles without a window compiles to the same plan with that of a page. -/
theorem finish_atPage {items skip number : Nat} {maxRows : Option Nat}
    (skips : (Page.mk items number).skip = .ok skip)
    (run : context.finish databaseId query.unpaged none filter joins = .ok (plan, after))
    (sorted : plan.orderBy ≠ []) :
    context.finish databaseId (query.atPage items number) maxRows filter joins =
      .ok (plan.cut (offsetOf skip) (some items), after) := by
  obtain ⟨⟨⟨columns, breakout⟩, afterColumns⟩, selected, run⟩ := Outcome.bind_eq_ok.mp run
  obtain ⟨⟨asked, afterOrder⟩, ordered, run⟩ := Outcome.bind_eq_ok.mp run
  obtain ⟨⟨keys, afterKeys⟩, settled, run⟩ := Outcome.bind_eq_ok.mp run
  obtain ⟨rfl, rfl⟩ := Prod.mk.inj (Except.ok.inj run)
  refine Outcome.bind_eq_ok.mpr ⟨_, selected, Outcome.bind_eq_ok.mpr ⟨_, ordered, ?_⟩⟩
  have someKeys :
      (breakout.foldl (fun keys field => appendKey keys ⟨field, .ascending⟩) asked).isEmpty =
        false := by
    rw [List.isEmpty_eq_false_iff]
    intro noKeys
    rw [noKeys] at settled
    exact sorted (settle_nil settled)
  have windowed : (query.atPage items number).window
      (!(breakout.foldl (fun keys field => appendKey keys ⟨field, .ascending⟩) asked).isEmpty) =
        .ok ⟨some items, offsetOf skip, []⟩ := by
    rw [Query.window, Query.atPage]
    dsimp only
    rw [skips, someKeys]
    rfl
  have lifted : (liftM ((query.atPage items number).window
      (!(breakout.foldl (fun keys field => appendKey keys ⟨field, .ascending⟩) asked).isEmpty)) :
        CompileM Window) afterOrder = .ok (⟨some items, offsetOf skip, []⟩, afterOrder) := by
    rw [windowed]
    rfl
  refine Outcome.bind_eq_ok.mpr ⟨_, lifted, Outcome.bind_eq_ok.mpr ⟨_, settled, ?_⟩⟩
  rfl

theorem finish_unpaged
    (run : context.finish databaseId query.unpaged none filter joins = .ok (plan, after)) :
    plan = plan.cut none none := by
  obtain ⟨⟨⟨columns, breakout⟩, afterColumns⟩, selected, run⟩ := Outcome.bind_eq_ok.mp run
  obtain ⟨⟨asked, afterOrder⟩, ordered, run⟩ := Outcome.bind_eq_ok.mp run
  obtain ⟨⟨keys, afterKeys⟩, settled, run⟩ := Outcome.bind_eq_ok.mp run
  obtain ⟨rfl, rfl⟩ := Prod.mk.inj (Except.ok.inj run)
  dsimp only [Query.unpaged, Plan.cut]
  rw [ite_self]

theorem compile_atPage {items skip number : Nat} {maxRows : Option Nat}
    (skips : (Page.mk items number).skip = .ok skip)
    (run : context.compile databaseId query.unpaged none joins = .ok (plan, after))
    (sorted : plan.orderBy ≠ []) :
    context.compile databaseId (query.atPage items number) maxRows joins =
      .ok (plan.cut (offsetOf skip) (some items), after) := by
  rw [compile_eq_finish] at run ⊢
  obtain ⟨⟨filter, afterFilter⟩, filtered, run⟩ := Outcome.bind_eq_ok.mp run
  exact Outcome.bind_eq_ok.mpr ⟨_, filtered, finish_atPage skips run sorted⟩

end CompileContext

/-- A sorted query that compiles without a window compiles for every page. -/
theorem Query.compile_atPage {query : Query} {catalog : Catalog} {capabilities : Capabilities}
    {databaseId : Int} {plan : Plan} {items skip number : Nat} (maxRows : Option Nat)
    (skips : (Page.mk items number).skip = .ok skip)
    (compiled : query.unpaged.compile catalog capabilities databaseId none = .ok plan)
    (sorted : plan.orderBy ≠ []) :
    (query.atPage items number).compile catalog capabilities databaseId maxRows =
      .ok (plan.cut (offsetOf skip) (some items)) := by
  unfold Query.compile at compiled ⊢
  rw [show (query.atPage items number).sourceTable = query.unpaged.sourceTable from rfl]
  cases isSource : catalog.table query.unpaged.sourceTable with
  | error missing =>
      rw [isSource] at compiled
      cases compiled
  | ok source =>
      rw [isSource] at compiled
      dsimp only at compiled ⊢
      split at compiled
      · cases compiled
      · next isHere =>
          obtain ⟨⟨made, after⟩, run, rfl⟩ := Outcome.map_eq_ok.mp compiled
          rw [if_neg isHere]
          exact Outcome.map_eq_ok.mpr
            ⟨_, CompileContext.compile_atPage skips run sorted, rfl⟩

theorem Query.cut_of_unpaged {query : Query} {catalog : Catalog} {capabilities : Capabilities}
    {databaseId : Int} {plan : Plan}
    (compiled : query.unpaged.compile catalog capabilities databaseId none = .ok plan) :
    plan = plan.cut none none := by
  obtain ⟨source, after, _, _, run⟩ := run_of_compile compiled
  rw [CompileContext.compile_eq_finish] at run
  obtain ⟨⟨filter, afterFilter⟩, filtered, run⟩ := Outcome.bind_eq_ok.mp run
  exact CompileContext.finish_unpaged run

/-- A plan that lists rows of one table, sorted as asked for and by the primary key. -/
structure Plan.Sorts (plan : Plan) (catalog : Catalog) (source : Table) (key : Field)
    (query : Query) : Prop where
  reads : plan.source = source
  joins : plan.joins = []
  ungrouped : plan.breakout = []
  columns : ∃ asked : List PlanField, plan.columns = asked.map .field
  own : ∀ field ∈ plan.fields, ∃ own, field = .direct own source ∧
    catalog.field own.id = .ok own ∧ own.tableId = source.id
  asked : ∀ order ∈ plan.orderBy, order.field = .direct key source ∨
    order.ref ∈ query.orderBy.map OrderKey.field
  decided : ∃ order ∈ plan.orderBy, order.field = .direct key source
  unlimited : plan = plan.cut none none

section Sorts

variable {catalog : Catalog} {source : Table} {key : Field} {query : Query} {plan : Plan}
  {databaseId : Int}

/-- Without foreign keys a plan needs no joins. -/
theorem Query.IsLocal.composes {capabilities : Capabilities} {maxRows : Option Nat}
    (isLocal : query.IsLocal) (listsOwn : catalog.ListsOwn)
    (isSource : catalog.table query.sourceTable = .ok source)
    (compiled : query.compile catalog capabilities databaseId maxRows = .ok plan) :
    (CompileContext.mk catalog .document source).Composes [] query databaseId plan := by
  rw [Query.compile_of_local isLocal catalog capabilities .document] at compiled
  obtain ⟨found, joins, isFound, _, collected, composes⟩ := composes_of_compile listsOwn compiled
  obtain rfl := Except.ok.inj (isSource.symm.trans isFound)
  rwa [collected.supported rfl] at composes

theorem direct_of_resolved {field : PlanField}
    (resolved : (CompileContext.mk catalog .document source).Resolved [] field) :
    ∃ own, field = .direct own source ∧ catalog.field own.id = .ok own ∧
      own.tableId = source.id := by
  cases resolved with
  | direct found own => exact ⟨_, rfl, found, own⟩
  | through member => exact absurd member List.not_mem_nil

/-- The plan of a sorted query for rows without a window. -/
theorem Query.IsLocal.sorts {capabilities : Capabilities} (isLocal : query.IsLocal)
    (isRows : query.aggregation = .rows) (ordered : query.orderBy ≠ [])
    (listsOwn : catalog.ListsOwn) (isSource : catalog.table query.sourceTable = .ok source)
    (isKey : catalog.primaryKey source.id = .ok (some key))
    (compiled : query.unpaged.compile catalog capabilities databaseId none = .ok plan) :
    plan.Sorts catalog source key query := by
  have unpagedLocal : query.unpaged.IsLocal :=
    ⟨isLocal.filter, isLocal.source, isLocal.breakout, isLocal.orderBy, isLocal.fields⟩
  have composes := unpagedLocal.composes listsOwn isSource compiled
  have own : ∀ field ∈ plan.fields, ∃ own, field = .direct own source ∧
      catalog.field own.id = .ok own ∧ own.tableId = source.id := fun field member =>
    direct_of_resolved (composes.fields_resolved listsOwn field member)
  obtain ⟨keyFound, _, _⟩ := listsOwn.field_of_primaryKey isKey
  have isKeyOf : ∀ order ∈ plan.orderBy, order.ref = .direct key.id →
      order.field = .direct key source := by
    intro order member isRef
    obtain ⟨field, isField, found, _⟩ := own order.field (Plan.mem_fields_of_order member)
    rw [PlanOrder.ref, isField] at isRef
    have sameId : field.id = key.id := FieldRef.direct.inj isRef
    rw [sameId] at found
    rw [isField, Except.ok.inj (found.symm.trans keyFound)]
  have noAggregate : CompileContext.aggregateOf query.unpaged.aggregation = none := by
    rw [show query.unpaged.aggregation = .rows from isRows]
    rfl
  have named := composes.named
  have selects := composes.selects
  generalize isColumns : plan.columns = columns at selects
  generalize isBreakout : plan.breakout = breakout at selects named
  have bare : breakout = [] ∧ ∃ asked : List PlanField, columns = asked.map .field := by
    cases selects with
    | @all fields =>
        refine ⟨rfl, fields.map fun field => .direct field source, ?_⟩
        rw [List.map_map]
        rfl
    | rows => exact ⟨rfl, _, rfl⟩
    | aggregate isAggregate =>
        rw [noAggregate] at isAggregate
        cases isAggregate
  obtain ⟨rfl, areFields⟩ := bare
  have namedRefs : ∀ ref, ref ∈ plan.orderBy.map PlanOrder.ref ↔
      ref ∈ query.orderBy.map OrderKey.field ∨ ref = .direct key.id := by
    intro ref
    have someOrder : query.unpaged.orderBy ≠ [] := ordered
    have isPrimary : (CompileContext.mk catalog .document source).catalog.primaryKey
        (CompileContext.mk catalog .document source).source.id = .ok (some key) := isKey
    rw [named ref, noAggregate, isPrimary]
    simp [someOrder]
    rfl
  constructor
  · exact composes.source
  · exact composes.joined
  · exact isBreakout
  · rw [isColumns]
    exact areFields
  · exact own
  · intro order member
    rcases (namedRefs order.ref).mp (List.mem_map_of_mem member) with asked | isPrimary
    · exact .inr asked
    · exact .inl (isKeyOf order member isPrimary)
  · obtain ⟨order, member, isRef⟩ := List.mem_map.mp ((namedRefs (.direct key.id)).mpr (.inr rfl))
    exact ⟨order, member, isKeyOf order member isRef⟩
  · exact Query.cut_of_unpaged compiled

end Sorts

end CrossQuery
