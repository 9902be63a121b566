import CrossQuery.Plan.Compiler
import CrossQuery.Proofs.Outcome

/-!
# Queries without foreign keys

Capabilities take part in the compilation of a query only where its references are resolved. A query
that names fields of its source table only is compiled alike for all stores.
-/

set_option autoImplicit false

namespace CrossQuery

/-- A reference to a field of the source table. -/
inductive FieldRef.IsLocal : FieldRef → Prop where
  | direct (id : Int) : IsLocal (.direct id)

/-- A filter on fields of the source table. -/
inductive Filter.IsLocal : Filter → Prop where
  | all : IsLocal .all
  | and {clauses : List Filter} : (∀ clause ∈ clauses, IsLocal clause) → IsLocal (.and clauses)
  | or {clauses : List Filter} : (∀ clause ∈ clauses, IsLocal clause) → IsLocal (.or clauses)
  | not {clause : Filter} : IsLocal clause → IsLocal (.not clause)
  | compare {comparison : Comparison} {field : FieldRef} {value : Json} :
      field.IsLocal → IsLocal (.compare comparison field value)
  | between {field : FieldRef} {least greatest : Json} :
      field.IsLocal → IsLocal (.between field least greatest)
  | isNull {field : FieldRef} : field.IsLocal → IsLocal (.isNull field)
  | notNull {field : FieldRef} : field.IsLocal → IsLocal (.notNull field)
  | startsWith {field : FieldRef} {value : String} :
      field.IsLocal → IsLocal (.startsWith field value)
  | contains {field : FieldRef} {value : String} : field.IsLocal → IsLocal (.contains field value)

/-- A query that names fields of its source table only. -/
structure Query.IsLocal (query : Query) : Prop where
  filter : ∀ filter, query.filter = some filter → filter.IsLocal
  source : ∀ ref, query.aggregation.source? = some ref → ref.IsLocal
  breakout : ∀ ref ∈ query.breakout, ref.IsLocal
  orderBy : ∀ key ∈ query.orderBy, key.field.IsLocal
  fields : ∀ ref ∈ query.fields, ref.IsLocal

namespace Filter

mutual

def references : Filter → List FieldRef
  | .and clauses | .or clauses => referencesOfEach clauses
  | .not clause => clause.references
  | .compare _ field _ | .between field _ _ | .isNull field | .notNull field
  | .startsWith field _ | .contains field _ => [field]
  | .all => []

def referencesOfEach : List Filter → List FieldRef
  | [] => []
  | clause :: rest => clause.references ++ referencesOfEach rest

end

theorem mem_referencesOfEach {ref : FieldRef} {clauses : List Filter} :
    ref ∈ referencesOfEach clauses ↔ ∃ clause ∈ clauses, ref ∈ clause.references := by
  induction clauses with
  | nil => simp [referencesOfEach]
  | cons clause rest ih => simp [referencesOfEach, ih]

theorem IsLocal.references {filter : Filter} (isLocal : filter.IsLocal) :
    ∀ ref ∈ filter.references, ref.IsLocal := by
  induction isLocal with
  | all => simp [Filter.references]
  | not _ ih => exact ih
  | and _ ih | or _ ih =>
      intro ref member
      obtain ⟨clause, isClause, named⟩ := mem_referencesOfEach.mp member
      exact ih clause isClause ref named
  | _ isLocal => simpa [Filter.references] using isLocal

end Filter

/-- The references in all clauses of a query. -/
def Query.references (query : Query) : List FieldRef :=
  (query.filter.map Filter.references).getD [] ++ query.fields ++ query.breakout ++
    query.orderBy.map OrderKey.field ++ query.aggregation.source?.toList

theorem Query.IsLocal.references {query : Query} (isLocal : query.IsLocal) :
    ∀ ref ∈ query.references, ref.IsLocal := by
  intro ref member
  simp only [Query.references, List.mem_append, List.mem_map, Option.mem_toList] at member
  rcases member with (((filtered | shown) | broken) | ⟨key, isKey, rfl⟩) | summed
  · cases asked : query.filter with
    | none => simp [asked] at filtered
    | some filter =>
        simp only [asked, Option.map_some, Option.getD_some] at filtered
        exact (isLocal.filter filter asked).references ref filtered
  · exact isLocal.fields ref shown
  · exact isLocal.breakout ref broken
  · exact isLocal.orderBy key isKey
  · exact isLocal.source ref summed

namespace CompileContext

variable {catalog : Catalog} {source : Table} {left right : Capabilities}

/-- Two stores for which references are resolved alike, whatever clause they occur in. -/
def ResolveAlike (catalog : Catalog) (source : Table) (left right : Capabilities)
    (refs : List FieldRef) : Prop :=
  ∀ ref ∈ refs, ∀ clause,
    (mk catalog left source).resolve clause ref = (mk catalog right source).resolve clause ref

theorem resolveAlike_of_local {refs : List FieldRef} (isLocal : ∀ ref ∈ refs, ref.IsLocal) :
    ResolveAlike catalog source left right refs := by
  intro ref member clause
  cases isLocal ref member
  rfl

theorem resolveAlike_of_support
    (same : left.supportsForeignKeys = right.supportsForeignKeys) (refs : List FieldRef) :
    ResolveAlike catalog source left right refs := by
  intro ref _ clause
  cases ref with
  | direct id => rfl
  | through key destination =>
      simp only [resolve, same]
      rfl

mutual

theorem lowerFilter_congr (filter : Filter)
    (alike : ResolveAlike catalog source left right filter.references) :
    (mk catalog left source).lowerFilter filter = (mk catalog right source).lowerFilter filter := by
  cases filter with
  | all => rfl
  | and clauses | or clauses => rw [lowerFilter, lowerFilter, lowerClauses_congr clauses alike]
  | not clause => rw [lowerFilter, lowerFilter, lowerFilter_congr clause alike]
  | compare comparison field value =>
      rw [lowerFilter, lowerFilter, lowerCompare, lowerCompare, alike field (.head _)]
  | between field _ _ | isNull field | notNull field | startsWith field _ | contains field _ =>
      rw [lowerFilter, lowerFilter, alike field (.head _)]

theorem lowerClauses_congr (clauses : List Filter)
    (alike : ResolveAlike catalog source left right (Filter.referencesOfEach clauses)) :
    (mk catalog left source).lowerClauses clauses =
      (mk catalog right source).lowerClauses clauses := by
  cases clauses with
  | nil => rfl
  | cons clause rest =>
      have first := lowerFilter_congr clause fun ref member =>
        alike ref (List.mem_append_left _ member)
      have others := lowerClauses_congr rest fun ref member =>
        alike ref (List.mem_append_right _ member)
      rw [lowerClauses, lowerClauses, first, others]

end

theorem lowerBreakout_congr {refs : List FieldRef}
    (alike : ResolveAlike catalog source left right refs) (breakout : List PlanField) :
    (mk catalog left source).lowerBreakout breakout refs =
      (mk catalog right source).lowerBreakout breakout refs := by
  induction refs generalizing breakout with
  | nil => rfl
  | cons ref rest ih =>
      have others := ih fun other member => alike other (List.mem_cons_of_mem _ member)
      simp only [lowerBreakout, alike ref List.mem_cons_self, others]

theorem mapM_resolve_congr {refs : List FieldRef}
    (alike : ResolveAlike catalog source left right refs) :
    (refs.mapM fun ref =>
        PlanColumn.field <$> (mk catalog left source).resolve "fields" ref) =
      refs.mapM fun ref =>
        PlanColumn.field <$> (mk catalog right source).resolve "fields" ref := by
  apply Outcome.mapM_congr
  intro ref member
  rw [alike ref member]

theorem lowerRows_congr {query : Query}
    (alike : ResolveAlike catalog source left right query.fields) :
    (mk catalog left source).lowerRows query = (mk catalog right source).lowerRows query := by
  unfold lowerRows
  simp only [bind_pure_comp]
  rw [mapM_resolve_congr alike]

theorem lowerSource_congr {ref : Option FieldRef} (kind : AggregateKind)
    (alike : ResolveAlike catalog source left right ref.toList) :
    (mk catalog left source).lowerSource kind ref =
      (mk catalog right source).lowerSource kind ref := by
  cases ref with
  | none => rfl
  | some field => rw [lowerSource, lowerSource, alike field (.head _)]

theorem aggregateOf_source {aggregation : Aggregation} {kind : AggregateKind}
    {ref : Option FieldRef} (isAggregate : aggregateOf aggregation = some (kind, ref)) :
    aggregation.source? = ref := by
  cases aggregation <;> cases isAggregate <;> rfl

theorem source?_of_rows {aggregation : Aggregation} (isRows : aggregateOf aggregation = none) :
    aggregation.source? = none := by
  cases aggregation <;> cases isRows
  rfl

theorem lowerColumns_congr {query : Query}
    (alike : ResolveAlike catalog source left right query.references) :
    (mk catalog left source).lowerColumns query = (mk catalog right source).lowerColumns query := by
  have fields : ResolveAlike catalog source left right query.fields := fun ref member =>
    alike ref (by simp [Query.references, member])
  have breakout : ResolveAlike catalog source left right query.breakout := fun ref member =>
    alike ref (by simp [Query.references, member])
  unfold lowerColumns
  cases isAggregate : aggregateOf query.aggregation with
  | none => simp only [lowerRows_congr fields]
  | some aggregate =>
      obtain ⟨kind, ref⟩ := aggregate
      have summed : ResolveAlike catalog source left right ref.toList := by
        intro other member
        rw [← aggregateOf_source isAggregate] at member
        exact alike other (List.mem_append_right _ member)
      simp only [lowerBreakout_congr breakout, lowerSource_congr kind summed]

theorem lowerOrder_congr {orderBy : List OrderKey}
    (alike : ResolveAlike catalog source left right (orderBy.map OrderKey.field))
    (aggregated : Bool) (breakout : List PlanField) (keys : List PlanOrder) :
    (mk catalog left source).lowerOrder aggregated breakout keys orderBy =
      (mk catalog right source).lowerOrder aggregated breakout keys orderBy := by
  induction orderBy generalizing keys with
  | nil => rfl
  | cons key rest ih =>
      have others := ih fun other member => alike other (List.mem_cons_of_mem _ member)
      simp only [lowerOrder, alike key.field (.head _), others]

theorem compile_congr {query : Query}
    (alike : ResolveAlike catalog source left right query.references) (databaseId : Int)
    (maxRows : Option Nat) :
    (mk catalog left source).compile databaseId query maxRows =
      (mk catalog right source).compile databaseId query maxRows := by
  have sameKeys : (mk catalog left source).breakTies = (mk catalog right source).breakTies := rfl
  have ordered : ResolveAlike catalog source left right (query.orderBy.map OrderKey.field) := by
    intro ref member
    apply alike
    simp only [Query.references, List.mem_append]
    exact .inl (.inr member)
  unfold compile
  simp only [lowerColumns_congr alike, lowerOrder_congr ordered, sameKeys]
  cases asked : query.filter with
  | none => rfl
  | some filter =>
      have filtered : ResolveAlike catalog source left right filter.references := fun ref member =>
        alike ref (by simp [Query.references, asked, member])
      simp only [lowerFilter_congr filter filtered]

end CompileContext

/-- The capabilities of a store matter only for how the references of a query are resolved. -/
theorem Query.compile_of_resolveAlike {query : Query} {catalog : Catalog}
    {left right : Capabilities}
    (alike : ∀ source, CompileContext.ResolveAlike catalog source left right query.references)
    (databaseId : Int) (maxRows : Option Nat) :
    query.compile catalog left databaseId maxRows =
      query.compile catalog right databaseId maxRows := by
  unfold compile
  split
  · rfl
  · next source _ => rw [CompileContext.compile_congr (alike source)]

/-- The capabilities of a store play no part for a query without foreign keys. -/
theorem Query.compile_of_local {query : Query} (isLocal : query.IsLocal) (catalog : Catalog)
    (left right : Capabilities) (databaseId : Int) (maxRows : Option Nat) :
    query.compile catalog left databaseId maxRows =
      query.compile catalog right databaseId maxRows :=
  compile_of_resolveAlike
    (fun _ => CompileContext.resolveAlike_of_local isLocal.references) databaseId maxRows

end CrossQuery
