import CrossQuery.Proofs.Plan.Lowered

/-!
# Plans that all stores understand alike

The plan of a portable query joins no tables, sorts by each field once, and counts rows in numbers
of 64 bits.
-/

set_option autoImplicit false

namespace CrossQuery

/-- A query that both stores understand alike. The counts of a request fit 64 bits. -/
structure Query.Portable (query : Query) (catalog : Catalog) : Prop where
  filter : ∀ filter, query.filter = some filter → filter.Portable catalog
  source : ∀ ref, query.aggregation.source? = some ref → ref.IsLocal
  breakout : ∀ ref ∈ query.breakout, ref.IsLocal
  orderBy : ∀ key ∈ query.orderBy, key.field.IsLocal
  fields : ∀ ref ∈ query.fields, ref.IsLocal
  limit : ∀ count, query.limit = some count → count < 2 ^ 64
  items : ∀ page, query.page = some page → page.items < 2 ^ 64

theorem Query.Portable.isLocal {query : Query} {catalog : Catalog}
    (portable : query.Portable catalog) : query.IsLocal :=
  ⟨fun filter asked => (portable.filter filter asked).isLocal, portable.source,
    portable.breakout, portable.orderBy, portable.fields⟩

/-- Keys of an order by known fields, each once, and of an aggregation by breakout fields only. -/
structure OrderKeys (known : List PlanField) (aggregated : Bool) (breakout : List PlanField)
    (keys : List PlanOrder) : Prop where
  known : ∀ key ∈ keys, key.field ∈ known
  allowed : aggregated = true →
    ∀ key ∈ keys, (breakout.any fun other => other.sameAs key.field) = true
  distinct : (keys.map PlanOrder.field).Nodup

/-- A plan of a query over one table that both stores carry out alike. -/
structure Plan.Portable (plan : Plan) (query : Query) (source : Table)
    (known : List PlanField) : Prop where
  source : plan.source = source
  joins : plan.joins = []
  filter : ∀ predicate, plan.filter = some predicate → predicate.Portable known
  orderBy : OrderKeys known plan.isAggregated plan.breakout plan.orderBy
  grouped : ∀ field ∈ plan.breakout, ∃ key ∈ plan.orderBy, key.field.sameAs field = true
  limit : ∀ count, plan.limit = some count → count < 2 ^ 64
  offset : ∀ count, plan.offset = some count → count < 2 ^ 64
  unpaged : query.page = none →
    plan.offset = none ∧ (plan.isAggregated = true → plan.limit = query.limit)

theorem PlanField.sameAs_self (field : PlanField) : field.sameAs field = true := by
  simp [sameAs]

namespace CompileContext

variable {known : List PlanField} {aggregated : Bool} {breakout : List PlanField}
  {keys : List PlanOrder}

theorem mem_or_eq_of_mem_appendKey {key other : PlanOrder} (member : other ∈ appendKey keys key) :
    other ∈ keys ∨ other = key := by
  unfold appendKey at member
  split at member
  · exact .inl member
  · rcases List.mem_append.mp member with earlier | last
    · exact .inl earlier
    · exact .inr (List.mem_singleton.mp last)

/-- Keys that differ in what tells fields apart still do with one key more. -/
theorem nodup_appendKey {α : Type} {key : PlanOrder} {image : PlanOrder → α}
    (distinct : (keys.map image).Nodup)
    (tells : ∀ other, image other = image key → other.field.sameAs key.field = true) :
    ((appendKey keys key).map image).Nodup := by
  unfold appendKey
  split
  · exact distinct
  · next fresh =>
      rw [List.map_append, List.map_singleton, List.nodup_append]
      refine ⟨distinct, by simp, ?_⟩
      rintro value member last isLast rfl
      obtain ⟨other, isOther, same⟩ := List.mem_map.mp member
      have isKey := same.trans (List.mem_singleton.mp isLast)
      exact fresh (List.any_eq_true.mpr ⟨other, isOther, tells other isKey⟩)

theorem OrderKeys.appendKey (ordered : OrderKeys known aggregated breakout keys) {key : PlanOrder}
    (isKnown : key.field ∈ known)
    (isAllowed : aggregated = true →
      (breakout.any fun other => other.sameAs key.field) = true) :
    OrderKeys known aggregated breakout (appendKey keys key) := by
  constructor
  · intro other member
    rcases mem_or_eq_of_mem_appendKey member with earlier | rfl
    · exact ordered.known other earlier
    · exact isKnown
  · intro isAggregated other member
    rcases mem_or_eq_of_mem_appendKey member with earlier | rfl
    · exact ordered.allowed isAggregated other earlier
    · exact isAllowed isAggregated
  · refine nodup_appendKey ordered.distinct fun other same => ?_
    rw [same]
    exact PlanField.sameAs_self _

theorem mem_appendKey_of_mem {key other : PlanOrder} (member : other ∈ keys) :
    other ∈ appendKey keys key := by
  unfold appendKey
  split
  · exact member
  · exact List.mem_append_left _ member

theorem exists_mem_appendKey (keys : List PlanOrder) (key : PlanOrder) :
    ∃ other ∈ appendKey keys key, other.field.sameAs key.field = true := by
  unfold appendKey
  split
  · next found => exact List.any_eq_true.mp found
  · exact ⟨key, by simp, PlanField.sameAs_self _⟩

/-- Breakout fields come behind the keys that are asked for. -/
theorem orderKeys_foldl {fields : List PlanField} (isKnown : ∀ field ∈ fields, field ∈ known)
    (isBreakout : ∀ field ∈ fields, field ∈ breakout) {keys : List PlanOrder}
    (ordered : OrderKeys known aggregated breakout keys) :
    OrderKeys known aggregated breakout
        (fields.foldl (fun keys field => appendKey keys ⟨field, .ascending⟩) keys) ∧
      (∀ key ∈ keys,
        key ∈ fields.foldl (fun keys field => appendKey keys ⟨field, .ascending⟩) keys) ∧
      ∀ field ∈ fields,
        ∃ key ∈ fields.foldl (fun keys field => appendKey keys ⟨field, .ascending⟩) keys,
          key.field.sameAs field = true := by
  induction fields generalizing keys with
  | nil => exact ⟨ordered, fun _ member => member, fun _ member => absurd member List.not_mem_nil⟩
  | cons field rest ih =>
      have step : OrderKeys known aggregated breakout
          (appendKey keys ⟨field, .ascending⟩) := by
        refine OrderKeys.appendKey ordered (isKnown field List.mem_cons_self) fun _ => ?_
        exact List.any_eq_true.mpr
          ⟨field, isBreakout field List.mem_cons_self, PlanField.sameAs_self field⟩
      obtain ⟨ordered, kept, grouped⟩ :=
        ih (fun other member => isKnown other (List.mem_cons_of_mem _ member))
          (fun other member => isBreakout other (List.mem_cons_of_mem _ member)) step
      refine ⟨ordered, fun key member => kept key (mem_appendKey_of_mem member), ?_⟩
      intro other member
      rcases List.mem_cons.mp member with rfl | later
      · obtain ⟨key, isKey, same⟩ := exists_mem_appendKey keys ⟨other, .ascending⟩
        exact ⟨key, kept key isKey, same⟩
      · exact grouped other later

section Lowering

variable {context : CompileContext} {joins : List PlanJoin}

theorem yields_resolve_local (knows : context.Knows known) (clause : String) {ref : FieldRef}
    (isLocal : ref.IsLocal) :
    Yields joins (context.resolve clause ref) fun field =>
      field ∈ known ∧ ∃ id, ref = .direct id ∧ context.catalog.field id = .ok field.field := by
  cases isLocal with
  | direct id =>
      exact (yields_resolve knows clause id).imp fun field ⟨found, isKnown⟩ =>
        ⟨isKnown, id, rfl, found⟩

theorem yields_lowerOrder (knows : context.Knows known) {orderBy : List OrderKey}
    (isLocal : ∀ key ∈ orderBy, key.field.IsLocal) {keys : List PlanOrder}
    (ordered : OrderKeys known aggregated breakout keys) :
    Yields joins (context.lowerOrder aggregated breakout keys orderBy)
      (OrderKeys known aggregated breakout) := by
  induction orderBy generalizing keys with
  | nil => exact yields_pure ordered
  | cons key rest ih =>
      have others : ∀ other ∈ rest, other.field.IsLocal :=
        fun other member => isLocal other (List.mem_cons_of_mem _ member)
      rw [lowerOrder]
      refine yields_bind
        (yields_resolve_local knows "order_by" (isLocal key List.mem_cons_self))
        fun field resolved => ?_
      obtain ⟨isKnown, -⟩ := resolved
      split
      · exact yields_throw_bind
      · next passes =>
          refine ih others (OrderKeys.appendKey ordered isKnown fun isAggregated => ?_)
          simpa [isAggregated] using passes

theorem yields_breakTies (knows : context.Knows known)
    (ordered : OrderKeys known false breakout keys) :
    Yields joins (context.breakTies keys) (OrderKeys known false breakout) := by
  refine yields_bind (yields_look fun key found => found) fun key found => ?_
  split
  · next key =>
      obtain ⟨fields, listed, isKey⟩ := Outcome.map_eq_ok.mp found
      have member := List.mem_of_find?_eq_some isKey
      exact yields_pure (OrderKeys.appendKey ordered (knows.listed fields listed key member) nofun)
  · exact yields_pure ordered

/-- The columns of a request for rows are known fields. -/
theorem yields_lowerRows (knows : context.Knows known) {query : Query}
    (isLocal : ∀ ref ∈ query.fields, ref.IsLocal) :
    Yields joins (context.lowerRows query) fun columns =>
      ∀ column ∈ columns, ∃ field ∈ known, column = .field field := by
  unfold lowerRows
  split
  · refine yields_bind (yields_look fun fields found => found) fun fields found => ?_
    refine yields_pure fun column member => ?_
    obtain ⟨field, isField, rfl⟩ := List.mem_map.mp member
    exact ⟨_, knows.listed fields found field isField, rfl⟩
  · refine yields_mapM fun ref member => ?_
    refine yields_bind (yields_resolve_local knows "fields" (isLocal ref member))
      fun field ⟨isKnown, _⟩ => ?_
    exact yields_pure ⟨field, isKnown, rfl⟩

theorem yields_lowerBreakout (knows : context.Knows known) {refs : List FieldRef}
    (isLocal : ∀ ref ∈ refs, ref.IsLocal) {breakout : List PlanField}
    (isKnown : ∀ field ∈ breakout, field ∈ known) :
    Yields joins (context.lowerBreakout breakout refs) fun fields =>
      (∀ field ∈ fields, field ∈ known) ∧ fields.length = breakout.length + refs.length := by
  induction refs generalizing breakout with
  | nil => exact yields_pure ⟨isKnown, rfl⟩
  | cons ref rest ih =>
      rw [lowerBreakout]
      refine yields_bind (yields_resolve_local knows "breakout" (isLocal ref List.mem_cons_self))
        fun field resolved => ?_
      obtain ⟨fieldKnown, -⟩ := resolved
      split
      · exact yields_throw_bind
      · have longer : ∀ other ∈ breakout ++ [field], other ∈ known := by
          intro other member
          rcases List.mem_append.mp member with earlier | last
          · exact isKnown other earlier
          · exact List.mem_singleton.mp last ▸ fieldKnown
        refine (ih (fun other member => isLocal other (List.mem_cons_of_mem _ member))
          longer).imp fun fields described => ⟨described.1, ?_⟩
        rw [described.2, List.length_append, List.length_singleton, List.length_cons]
        omega

theorem yields_lowerSource (knows : context.Knows known) (kind : AggregateKind)
    {ref : Option FieldRef} (isLocal : ∀ field, ref = some field → field.IsLocal) :
    Yields joins (context.lowerSource kind ref) fun source =>
      (ref = none → source = none) ∧
        ∀ field, ref = some field → ∃ id found, field = .direct id ∧ source = some found ∧
          found ∈ known ∧ context.catalog.field id = .ok found.field := by
  cases ref with
  | none => exact yields_pure ⟨fun _ => rfl, nofun⟩
  | some field =>
      refine yields_bind (yields_resolve_local knows "aggregation" (isLocal field rfl))
        fun found ⟨isKnown, id, isDirect, isField⟩ => ?_
      split
      · exact yields_throw_bind
      · refine yields_pure ⟨nofun, fun other same => ?_⟩
        obtain rfl := Option.some.inj same
        exact ⟨id, found, isDirect, rfl, isKnown, isField⟩

/-- The columns and the breakout fields that a query asks for. -/
def Asked (catalog : Catalog) (query : Query) (known : List PlanField)
    (columns : List PlanColumn) (breakout : List PlanField) : Prop :=
  match aggregateOf query.aggregation with
  | none => (∀ column ∈ columns, ∃ field ∈ known, column = .field field) ∧ breakout = []
  | some (kind, ref) =>
    (∀ field ∈ breakout, field ∈ known) ∧ breakout.length = query.breakout.length ∧
      ∃ source, columns = breakout.map .field ++ [.aggregate kind source] ∧
        (ref = none → source = none) ∧
        ∀ field, ref = some field → ∃ id found, field = .direct id ∧ source = some found ∧
          found ∈ known ∧ catalog.field id = .ok found.field

theorem yields_lowerColumns (knows : context.Knows known) {query : Query}
    (isLocal : query.IsLocal) :
    Yields joins (context.lowerColumns query) fun (columns, breakout) =>
      Asked context.catalog query known columns breakout := by
  unfold lowerColumns Asked
  cases isAggregate : aggregateOf query.aggregation with
  | none =>
      dsimp only
      split
      · exact yields_throw_bind
      · refine yields_bind (yields_lowerRows knows isLocal.fields) fun columns areFields => ?_
        exact yields_pure ⟨areFields, rfl⟩
  | some aggregate =>
      obtain ⟨kind, ref⟩ := aggregate
      have sourceLocal : ∀ field, ref = some field → field.IsLocal :=
        fun field same => isLocal.source field ((aggregateOf_source isAggregate).trans same)
      dsimp only
      split
      · exact yields_throw_bind
      · have noneKnown : ∀ field ∈ ([] : List PlanField), field ∈ known :=
          fun field member => absurd member List.not_mem_nil
        refine yields_bind (yields_lowerBreakout knows isLocal.breakout noneKnown)
          fun breakout ⟨areKnown, length⟩ => ?_
        refine yields_bind (yields_lowerSource knows kind sourceLocal)
          fun source ⟨without, found⟩ => ?_
        refine yields_pure ⟨areKnown, ?_, source, rfl, without, found⟩
        simpa using length

theorem Asked.breakout_known {catalog : Catalog} {query : Query} {columns : List PlanColumn}
    (asked : Asked catalog query known columns breakout) : ∀ field ∈ breakout, field ∈ known := by
  unfold Asked at asked
  split at asked
  · rw [asked.2]
    exact fun field member => absurd member List.not_mem_nil
  · exact asked.1

theorem Asked.isAggregated_eq_false {catalog : Catalog} {query : Query} {columns : List PlanColumn}
    (asked : Asked catalog query known columns breakout)
    (notAggregated : columns.any PlanColumn.isAggregate = false) : breakout = [] := by
  unfold Asked at asked
  split at asked
  · exact asked.2
  · obtain ⟨_, _, source, rfl, _⟩ := asked
    simp [PlanColumn.isAggregate] at notAggregated

theorem window_bounds {query : Query} {ordered : Bool} {window : Window}
    (limited : ∀ count, query.limit = some count → count < 2 ^ 64)
    (items : ∀ page, query.page = some page → page.items < 2 ^ 64)
    (made : query.window ordered = .ok window) :
    (∀ count, window.limit = some count → count < 2 ^ 64) ∧
      (∀ count, window.offset = some count → count < 2 ^ 64) ∧
      (query.page = none → window.offset = none ∧ window.limit = query.limit) := by
  unfold Query.window at made
  split at made
  · cases made
    exact ⟨limited, nofun, fun _ => ⟨rfl, rfl⟩⟩
  · next page isPage =>
      obtain ⟨skip, skipped, same⟩ := Outcome.bind_eq_ok.mp made
      cases same
      have bound : skip < 2 ^ 64 := by
        unfold Page.skip at skipped
        split at skipped
        · cases skipped
        · split at skipped
          · cases skipped
          · next fits =>
              cases skipped
              unfold offsetBound at fits
              omega
      refine ⟨?_, ?_, fun unpaged => absurd (isPage.symm.trans unpaged) nofun⟩
      · intro count same
        obtain rfl := Option.some.inj same
        exact items page isPage
      · intro count same
        dsimp only at same
        split at same
        · obtain rfl := Option.some.inj same
          exact bound
        · cases same

/-- The keys of an order, with ties broken where rows are asked for. -/
def settle (context : CompileContext) (aggregated : Bool) (keys : List PlanOrder) :
    CompileM (List PlanOrder) :=
  if !aggregated && !keys.isEmpty then context.breakTies keys else pure keys

/-- What is left of a compilation once the filter is lowered. -/
def finish (context : CompileContext) (databaseId : Int) (query : Query) (maxRows : Option Nat)
    (filter : Option Predicate) : CompileM Plan := do
  let (columns, breakout) ← context.lowerColumns query
  let aggregated := columns.any PlanColumn.isAggregate
  let asked ← context.lowerOrder aggregated breakout [] query.orderBy
  let keys := breakout.foldl (fun keys field => CompileContext.appendKey keys ⟨field, .ascending⟩) asked
  let window ← query.window !keys.isEmpty
  let keys ← context.settle aggregated keys
  let limit :=
    match window.limit with
    | some limit => some limit
    | none => if aggregated then none else maxRows
  pure
    { databaseId := databaseId
      source := context.source
      joins := ← get
      columns := columns
      filter := filter
      breakout := breakout
      orderBy := keys
      limit := limit
      offset := window.offset
      warnings := window.warnings }

theorem compile_eq_finish (context : CompileContext) (databaseId : Int) (query : Query)
    (maxRows : Option Nat) :
    context.compile databaseId query maxRows =
      (match query.filter with
        | some filter => context.lowerFilter filter
        | none => pure none) >>= context.finish databaseId query maxRows := by
  unfold compile finish
  cases query.filter with
  | none =>
      refine bind_congr fun filter => bind_congr fun (columns, breakout) => ?_
      refine bind_congr fun asked => bind_congr fun window => ?_
      dsimp only [settle]
      split <;> rfl
  | some filter =>
      refine bind_congr fun filter => bind_congr fun (columns, breakout) => ?_
      refine bind_congr fun asked => bind_congr fun window => ?_
      dsimp only [settle]
      split <;> rfl

theorem yields_get : Yields joins get (· = joins) := by
  rintro result after done
  cases done
  exact ⟨rfl, rfl⟩

/-- Ties of an order are broken where rows are asked for. -/
theorem yields_settle (knows : context.Knows known)
    (ordered : OrderKeys known aggregated breakout keys)
    (grouped : ∀ field ∈ breakout, ∃ key ∈ keys, key.field.sameAs field = true)
    (ungrouped : aggregated = false → breakout = []) :
    Yields joins (context.settle aggregated keys) fun keys =>
      OrderKeys known aggregated breakout keys ∧
        ∀ field ∈ breakout, ∃ key ∈ keys, key.field.sameAs field = true := by
  unfold settle
  split
  · next untied =>
      obtain rfl : aggregated = false := by
        cases aggregated with
        | false => rfl
        | true => cases untied
      obtain rfl := ungrouped rfl
      exact (yields_breakTies knows ordered).imp fun keys ordered =>
        ⟨ordered, fun field member => absurd member List.not_mem_nil⟩
  · exact yields_pure ⟨ordered, grouped⟩

/-- The plan of a portable query is portable, and has the columns that are asked for. -/
theorem yields_compile (knows : context.Knows known) {query : Query}
    (portable : query.Portable context.catalog) {maxRows : Option Nat}
    (bounded : ∀ count, maxRows = some count → count < 2 ^ 64) (databaseId : Int) :
    Yields [] (context.compile databaseId query maxRows) fun plan =>
      plan.Portable query context.source known ∧
        Asked context.catalog query known plan.columns plan.breakout := by
  have filtered : Yields []
      (match query.filter with
        | some filter => context.lowerFilter filter
        | none => pure none) fun result =>
      ∀ predicate, result = some predicate → predicate.Portable known := by
    split
    · next filter asked => exact yields_lowerFilter knows (portable.filter filter asked)
    · exact yields_pure nofun
  rw [compile_eq_finish]
  refine yields_bind filtered fun filter isPortable => ?_
  refine yields_bind (yields_lowerColumns knows portable.isLocal) fun (columns, breakout) asked => ?_
  have noKeys : OrderKeys known (columns.any PlanColumn.isAggregate) breakout [] :=
    ⟨fun key member => absurd member List.not_mem_nil,
      fun _ key member => absurd member List.not_mem_nil, List.nodup_nil⟩
  refine yields_bind (yields_lowerOrder knows portable.orderBy noKeys) fun keys ordered => ?_
  obtain ⟨ordered, _, grouped⟩ :=
    orderKeys_foldl asked.breakout_known (fun field member => member) ordered
  refine yields_bind (yields_lift fun window made => made) fun window made => ?_
  obtain ⟨limit, offset, unpaged⟩ := window_bounds portable.limit portable.items made
  refine yields_bind (yields_settle knows ordered grouped asked.isAggregated_eq_false)
    fun keys ⟨ordered, grouped⟩ => ?_
  refine yields_bind yields_get fun joins noJoins => ?_
  refine yields_pure ⟨?_, asked⟩
  exact
    { source := rfl
      joins := noJoins
      filter := isPortable
      orderBy := ordered
      grouped := grouped
      limit := fun count isLimit => by
        dsimp only at isLimit
        split at isLimit
        · next given => exact limit count (given.trans isLimit)
        · split at isLimit
          · cases isLimit
          · exact bounded count isLimit
      offset := offset
      unpaged := fun noPage => by
        obtain ⟨noOffset, sameLimit⟩ := unpaged noPage
        refine ⟨noOffset, fun isAggregated => ?_⟩
        dsimp only
        split
        · next given => exact given.symm.trans sameLimit
        · next noLimit =>
            rw [if_pos (show columns.any PlanColumn.isAggregate = true from isAggregated)]
            exact noLimit.symm.trans sameLimit }

end Lowering

end CompileContext

/-- What is left of a compilation keeps the filter. -/
theorem CompileContext.filter_of_finish {context : CompileContext} {databaseId : Int}
    {query : Query} {maxRows : Option Nat} {filter : Option Predicate}
    {joins after : List PlanJoin} {plan : Plan}
    (made : context.finish databaseId query maxRows filter joins = .ok (plan, after)) :
    plan.filter = filter := by
  obtain ⟨⟨⟨columns, breakout⟩, joined⟩, _, made⟩ := Outcome.bind_eq_ok.mp made
  obtain ⟨⟨asked, joined⟩, _, made⟩ := Outcome.bind_eq_ok.mp made
  obtain ⟨⟨window, joined⟩, _, made⟩ := Outcome.bind_eq_ok.mp made
  obtain ⟨⟨keys, joined⟩, _, made⟩ := Outcome.bind_eq_ok.mp made
  cases made
  rfl

/-- A query that compiles names a table of the database, and its plan is made for that table. -/
theorem Query.run_of_compile {query : Query} {catalog : Catalog} {capabilities : Capabilities}
    {databaseId : Int} {maxRows : Option Nat} {plan : Plan}
    (compiled : query.compile catalog capabilities databaseId maxRows = .ok plan) :
    ∃ source after, catalog.table query.sourceTable = .ok source ∧
      source.databaseId = databaseId ∧
      (CompileContext.mk catalog capabilities source).compile databaseId query maxRows [] =
        .ok (plan, after) := by
  unfold Query.compile at compiled
  split at compiled
  · cases compiled
  · next source isSource =>
      split at compiled
      · cases compiled
      · next isHere =>
          obtain ⟨⟨made, after⟩, run, rfl⟩ := Outcome.map_eq_ok.mp compiled
          exact ⟨source, after, isSource, not_not.mp isHere, run⟩

/-- The plan of a query without a filter has none. -/
theorem Query.filter_of_compile {query : Query} {catalog : Catalog} {capabilities : Capabilities}
    {databaseId : Int} {maxRows : Option Nat} {plan : Plan} (unfiltered : query.filter = none)
    (compiled : query.compile catalog capabilities databaseId maxRows = .ok plan) :
    plan.filter = none := by
  obtain ⟨source, after, _, _, run⟩ := run_of_compile compiled
  rw [CompileContext.compile_eq_finish, unfiltered] at run
  exact CompileContext.filter_of_finish run

/-- A plan of a portable query is one of its source table, over whatever fields the source has. -/
theorem Query.Portable.of_compile {query : Query} {catalog : Catalog}
    (portable : query.Portable catalog) {capabilities : Capabilities} {databaseId : Int}
    {maxRows : Option Nat} (bounded : ∀ count, maxRows = some count → count < 2 ^ 64) {plan : Plan}
    (compiled : query.compile catalog capabilities databaseId maxRows = .ok plan) :
    ∃ source, catalog.table query.sourceTable = .ok source ∧
      ∀ known, (CompileContext.mk catalog capabilities source).Knows known →
        plan.Portable query source known ∧
          CompileContext.Asked catalog query known plan.columns plan.breakout := by
  obtain ⟨source, after, isSource, _, run⟩ := run_of_compile compiled
  refine ⟨source, isSource, fun known knows => ?_⟩
  exact (CompileContext.yields_compile knows portable bounded databaseId plan after run).2

end CrossQuery
