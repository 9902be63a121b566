import CrossQuery.Proofs.Plan.Kept
import CrossQuery.Proofs.Plan.Visited

/-!
# The joins of plans

A plan joins one table for every foreign key that the query refers through. What refers through a
key may be dropped all the same, when the filter is lowered: a join is used by what the query keeps.
-/

set_option autoImplicit false

namespace CrossQuery

/-- A reference that is left of a query once it is compiled. -/
def Query.Keeps (query : Query) (ref : FieldRef) : Prop :=
  (∃ filter, query.filter = some filter ∧ filter.Keeps ref) ∨
    ref ∈ query.fields ++ query.breakout ++ query.orderBy.map OrderKey.field ++
      query.aggregation.source?.toList

namespace CompileContext

variable {context : CompileContext}

section Joining

/-- Whether one of the joins is by a key. -/
def JoinsBy (joins : List PlanJoin) (keyId : Int) : Prop :=
  ∃ join ∈ joins, join.key.id = keyId

/-- Adding a join leaves the others, and adds one by the key if there is none. -/
theorem joinsBy_of_addJoin {key : Field} {target : Table} {joins after : List PlanJoin}
    (run : context.addJoin key target joins = .ok ((), after)) (keyId : Int) :
    JoinsBy after keyId ↔ JoinsBy joins keyId ∨ keyId = key.id := by
  unfold addJoin at run
  obtain ⟨current, middle, isCurrent, rest⟩ := exists_of_bind_ok run
  obtain ⟨rfl, rfl⟩ := yields_get current middle isCurrent
  split at rest
  · next present =>
      obtain ⟨join, member, sameId⟩ := List.any_eq_true.mp present
      cases rest
      refine ⟨.inl, ?_⟩
      rintro (joined | rfl)
      · exact joined
      · exact ⟨join, member, beq_iff_eq.mp sameId⟩
  · obtain ⟨targetKey, unchanged, isTargetKey, added⟩ := exists_of_bind_ok rest
    obtain ⟨rfl, _⟩ := yields_found targetKey unchanged isTargetKey
    cases targetKey with
    | none => cases added
    | some targetKey =>
        cases added
        simp [JoinsBy, or_and_right, exists_or, eq_comm]

/-- A reference through a key is resolved by adding a join by the key. -/
theorem addJoin_of_resolve {clause : String} {keyId destinationId : Int} {field : PlanField}
    {joins after : List PlanJoin}
    (run : context.resolve clause (.through keyId destinationId) joins = .ok (field, after)) :
    ∃ key target, key.id = keyId ∧ context.addJoin key target joins = .ok ((), after) := by
  rw [resolve] at run
  obtain ⟨_, supported⟩ := of_check_ok run
  obtain ⟨key, middle, isKey, behindKey⟩ := exists_of_bind_ok supported
  obtain ⟨rfl, foundKey⟩ := yields_found key middle isKey
  obtain ⟨_, ofSource⟩ := of_check_ok behindKey
  cases refers : key.target with
  | none =>
      simp only [refers] at ofSource
      cases ofSource
  | some targetId =>
      simp only [refers] at ofSource
      obtain ⟨destination, middle, isDestination, behindField⟩ := exists_of_bind_ok ofSource
      obtain ⟨rfl, _⟩ := yields_found destination middle isDestination
      obtain ⟨_, inTarget⟩ := of_check_ok behindField
      obtain ⟨target, middle, isTarget, behindTable⟩ := exists_of_bind_ok inTarget
      obtain ⟨rfl, _⟩ := yields_found target middle isTarget
      obtain ⟨_, middle, added, done⟩ := exists_of_bind_ok behindTable
      cases done
      exact ⟨key, target, (CatalogBuilder.mem_of_field_eq_ok foundKey).2, added⟩

/-- Resolving a reference through a key adds a join by it if there is none. -/
theorem joinsBy_of_resolve {clause : String} {ref : FieldRef} {field : PlanField}
    {joins after : List PlanJoin} (run : context.resolve clause ref joins = .ok (field, after))
    (keyId : Int) :
    JoinsBy after keyId ↔
      JoinsBy joins keyId ∨ ∃ destination, ref = .through keyId destination := by
  cases ref with
  | direct id =>
      obtain ⟨field, middle, isField, done⟩ := exists_of_bind_ok run
      obtain ⟨rfl, _⟩ := yields_found field middle isField
      split at done
      · cases done
        simp
      · cases done
  | through otherId destinationId =>
      obtain ⟨key, target, rfl, added⟩ := addJoin_of_resolve run
      rw [joinsBy_of_addJoin added]
      simp [eq_comm]

theorem ResolvesAll.joinsBy_iff {refs : List FieldRef} {joins after : List PlanJoin}
    (resolved : context.ResolvesAll refs joins after) (keyId : Int) :
    JoinsBy after keyId ↔
      JoinsBy joins keyId ∨ ∃ destination, .through keyId destination ∈ refs := by
  induction resolved with
  | nil => simp
  | cons first _ ih =>
      rw [ih, joinsBy_of_resolve first]
      simp only [List.mem_cons, exists_or, or_assoc, eq_comm]

end Joining

section Uses

variable {joins : List PlanJoin} {query : Query} {databaseId : Int} {plan : Plan}

/-- Fields are asked for one by one only where nothing is aggregated. -/
theorem gives_noFields_of_compile (databaseId : Int) (query : Query) (maxRows : Option Nat) :
    Gives (context.compile databaseId query maxRows) fun _ =>
      aggregateOf query.aggregation ≠ none → query.fields = [] := by
  have selects : Gives (context.lowerColumns query) fun _ =>
      aggregateOf query.aggregation ≠ none → query.fields = [] := by
    unfold lowerColumns
    cases aggregateOf query.aggregation with
    | none => exact gives_known fun aggregated => absurd rfl aggregated
    | some aggregate =>
        refine gives_check fun bare => gives_known fun _ => ?_
        simpa using bare
  rw [compile_eq_finish]
  refine gives_bind (gives_any _) fun filter _ => ?_
  unfold finish
  exact gives_first selects

/-- What refers through a key in the columns of a plan is what does so in the query. -/
theorem Selects.through_mem_iff {columns : List PlanColumn} {breakout : List PlanField}
    (selects : context.Selects joins query columns breakout)
    (noFields : aggregateOf query.aggregation ≠ none → query.fields = [])
    (keyId destinationId : Int) :
    .through keyId destinationId ∈
        (columns.flatMap PlanColumn.fields ++ breakout).map PlanField.ref ↔
      .through keyId destinationId ∈
        query.fields ++ query.breakout ++ query.aggregation.source?.toList := by
  cases selects with
  | all isRows noBreakout noneAsked =>
      simp [noBreakout, noneAsked, source?_of_rows isRows, PlanColumn.fields, PlanField.ref,
        PlanField.direct]
  | rows isRows noBreakout _ areRefs =>
      rw [← areRefs, noBreakout, source?_of_rows isRows]
      simp [PlanColumn.fields, List.flatMap_map]
  | @aggregate kind _ _ source isAggregate areRefs _ _ isSource =>
      have aggregates : aggregateOf query.aggregation ≠ none := by simp [isAggregate]
      rw [noFields aggregates, ← areRefs, aggregateOf_source isAggregate, ← isSource]
      have shown : ((breakout.map PlanColumn.field ++ [PlanColumn.aggregate kind source]).flatMap
          PlanColumn.fields) = breakout ++ source.toList := by
        simp [PlanColumn.fields, List.flatMap_map]
      rw [shown]
      simp only [List.map_append, List.mem_append, List.nil_append, Option.toList_map]
      exact or_iff_left_of_imp .inl

/-- What refers through a key in a plan is what the query keeps. -/
theorem Composes.through_mem_iff (composes : context.Composes joins query databaseId plan)
    (noFields : aggregateOf query.aggregation ≠ none → query.fields = [])
    (filtered : ∀ ref, ref ∈ Predicate.refs plan.filter ↔
      ∃ filter, query.filter = some filter ∧ filter.Keeps ref)
    (keyId destinationId : Int) :
    .through keyId destinationId ∈ plan.fields.map PlanField.ref ↔
      query.Keeps (.through keyId destinationId) := by
  have shown := composes.selects.through_mem_iff noFields keyId destinationId
  have sorted : FieldRef.through keyId destinationId ∈
        (plan.orderBy.map PlanOrder.field).map PlanField.ref ↔
      .through keyId destinationId ∈ query.orderBy.map OrderKey.field ∨
        .through keyId destinationId ∈ plan.breakout.map PlanField.ref := by
    rw [List.map_map]
    refine (composes.named _).trans (or_iff_left ?_)
    rintro ⟨_, _, key, _, isDirect⟩
    cases isDirect
  simp only [List.map_append, List.mem_append] at shown
  simp only [Plan.fields, Query.Keeps, ← filtered, Predicate.refs, List.map_append,
    List.mem_append, sorted]
  grind

end Uses

end CompileContext

/-- The joins of a plan are by the foreign keys that the query refers through. Some field of the
plan is reached through a join just if the query keeps a reference through its key. -/
theorem Query.joins_used_iff {builder : CatalogBuilder} {capabilities : Capabilities}
    {databaseId : Int} {maxRows : Option Nat} {query : Query} {plan : Plan}
    (built : builder.Built)
    (compiled : query.compile builder.catalog capabilities databaseId maxRows = .ok plan) :
    (∀ keyId, (∃ join ∈ plan.joins, join.key.id = keyId) ↔
        ∃ destination, .through keyId destination ∈ query.references) ∧
      ∀ join ∈ plan.joins, (∃ field ∈ plan.fields, field.via = some join.key) ↔
        ∃ destination, query.Keeps (.through join.key.id destination) := by
  obtain ⟨source, joins, _, _, run⟩ := run_of_compile compiled
  obtain ⟨collected, _, composes⟩ :=
    CompileContext.extends_compile built.listsOwn databaseId maxRows
      CompileContext.collected_nil plan joins run
  have named := composes.through_mem_iff
    (CompileContext.gives_noFields_of_compile databaseId query maxRows [] plan joins run)
    (CompileContext.gives_leaves_of_compile databaseId query maxRows [] plan joins run)
  refine ⟨fun keyId => ?_, fun join member => ?_⟩
  · obtain ⟨refs, same, resolved⟩ := CompileContext.resolvesAll_of_compile run
    have joined := resolved.joinsBy_iff keyId
    rw [composes.joined]
    simpa [CompileContext.JoinsBy, same.mem_iff] using joined
  · constructor
    · rintro ⟨field, isField, isVia⟩
      refine ⟨field.field.id, (named _ _).mp (List.mem_map.mpr ⟨field, isField, ?_⟩)⟩
      simp only [PlanField.ref, isVia]
    · rintro ⟨destination, kept⟩
      obtain ⟨field, isField, answers⟩ := List.mem_map.mp ((named _ _).mpr kept)
      refine ⟨field, isField, ?_⟩
      cases composes.fields_resolved built.listsOwn field isField with
      | direct => cases answers
      | @through _ other isOther =>
          rw [composes.joined] at member
          have sameKey := (FieldRef.through.inj answers).1
          exact congrArg _ (congrArg _ (eq_of_key_eq collected.distinct isOther member sameKey))

theorem pricesByCategory_joins_used :
    ∃ plan, pricesByCategory.compile venueCatalog.catalog (.relational .upperCase) 1 none =
        .ok plan ∧
      ∃ join ∈ plan.joins, join.key.id = 4 ∧ ∃ field ∈ plan.fields, field.via = some join.key := by
  have compiles : (pricesByCategory.compile venueCatalog.catalog (.relational .upperCase) 1
      none).isOk = true := by
    cbv
  obtain ⟨plan, compiled⟩ := Outcome.exists_of_isOk compiles
  obtain ⟨joinsBy, used⟩ := Query.joins_used_iff venueCatalog_built compiled
  have refers : .through 4 2 ∈ pricesByCategory.references := by
    simp [Query.references, pricesByCategory]
  obtain ⟨join, member, isKey⟩ := (joinsBy 4).mpr ⟨2, refers⟩
  refine ⟨plan, compiled, join, member, isKey, (used join member).mpr ⟨2, ?_⟩⟩
  rw [isKey]
  exact .inr (by simp [pricesByCategory])

/-- Venues of the third category, or any others. -/
def anyVenue : Query where
  sourceTable := 2
  filter := some (.or [.compare .equal (.through 4 1) (.whole 3), .all])
  aggregation := .rows
  breakout := []
  orderBy := []
  fields := []
  limit := none
  page := none

/-- The category is joined to the venues, and nothing is read from it. -/
theorem anyVenue_joins_unused :
    venueCatalog.Built ∧
      ∃ plan, anyVenue.compile venueCatalog.catalog (.relational .upperCase) 1 none = .ok plan ∧
        ∃ join ∈ plan.joins, ∀ field ∈ plan.fields, field.via ≠ some join.key := by
  have compiles : ((anyVenue.compile venueCatalog.catalog (.relational .upperCase) 1 none).map
      fun plan => (plan.joins.isEmpty, plan.fields.map PlanField.isJoined)) =
        .ok (false, [false, false, false]) := by
    cbv
  obtain ⟨plan, compiled, parts⟩ := Outcome.map_eq_ok.mp compiles
  obtain ⟨someJoins, noneJoined⟩ := Prod.mk.inj parts
  obtain ⟨join, member⟩ :=
    List.exists_mem_of_ne_nil plan.joins (List.isEmpty_eq_false_iff.mp someJoins)
  refine ⟨venueCatalog_built, plan, compiled, join, member, fun field isField isVia => ?_⟩
  have isJoined : true ∈ plan.fields.map PlanField.isJoined :=
    List.mem_map.mpr ⟨field, isField, by simp [PlanField.isJoined, isVia]⟩
  simp [noneJoined] at isJoined

end CrossQuery
