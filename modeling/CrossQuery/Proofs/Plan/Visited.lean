import CrossQuery.Proofs.Plan.Local
import CrossQuery.Proofs.Plan.Resolved

/-!
# References as they are visited

A compilation that succeeds has resolved every reference of the query, one after the other, and has
changed its joins in no other way. What resolving a reference does to the joins is thereby done by
the whole compilation, for all of its references.
-/

set_option autoImplicit false

namespace CrossQuery

namespace CompileContext

variable {context : CompileContext}

/-- References that are resolved one after the other, and the joins before and after that. -/
inductive ResolvesAll (context : CompileContext) :
    List FieldRef → List PlanJoin → List PlanJoin → Prop where
  | nil {joins : List PlanJoin} : ResolvesAll context [] joins joins
  | cons {clause : String} {ref : FieldRef} {rest : List FieldRef} {field : PlanField}
      {joins middle after : List PlanJoin} :
      context.resolve clause ref joins = .ok (field, middle) →
      ResolvesAll context rest middle after → ResolvesAll context (ref :: rest) joins after

theorem ResolvesAll.append {refs more : List FieldRef} {joins middle after : List PlanJoin}
    (first : context.ResolvesAll refs joins middle) (rest : context.ResolvesAll more middle after) :
    context.ResolvesAll (refs ++ more) joins after := by
  induction first with
  | nil => exact rest
  | cons resolved _ ih => exact .cons resolved (ih rest)

/-- A step that resolves the references in turn, and leaves the joins as that makes them. -/
def Visits {α : Type} (context : CompileContext) (step : CompileM α) (refs : List FieldRef) :
    Prop :=
  ∀ joins result after, step joins = .ok (result, after) → context.ResolvesAll refs joins after

section Steps

variable {α β : Type} {refs more : List FieldRef}

theorem visits_pure {value : α} : context.Visits (pure value) [] := by
  intro joins result after done
  cases done
  exact .nil

theorem visits_throw {failure : Failure} : context.Visits (throw failure : CompileM α) refs := by
  intro joins result after done
  cases done

theorem visits_bind {step : CompileM α} {next : α → CompileM β} (first : context.Visits step refs)
    (rest : ∀ value, context.Visits (next value) more) :
    context.Visits (step >>= next) (refs ++ more) := by
  intro joins result after done
  obtain ⟨value, middle, stepDone, restDone⟩ := exists_of_bind_ok done
  exact (first joins value middle stepDone).append (rest value middle result after restDone)

/-- In front of a step that resolves nothing. -/
theorem visits_first {step : CompileM α} {next : α → CompileM β} (first : context.Visits step refs)
    (rest : ∀ value, context.Visits (next value) []) : context.Visits (step >>= next) refs := by
  rw [← List.append_nil refs]
  exact visits_bind first rest

/-- Behind a step that leaves the joins as they are. -/
theorem visits_yields_bind {step : CompileM α} {next : α → CompileM β}
    {fact : List PlanJoin → α → Prop} (first : ∀ joins, Yields joins step (fact joins))
    (rest : ∀ value, context.Visits (next value) refs) : context.Visits (step >>= next) refs := by
  intro joins result after done
  obtain ⟨value, middle, stepDone, restDone⟩ := exists_of_bind_ok done
  obtain ⟨rfl, _⟩ := first joins value middle stepDone
  exact rest value middle result after restDone

/-- Behind a check that does not fail. -/
theorem visits_check {fails : Prop} [Decidable fails] {failure : Failure}
    {next : Unit → CompileM β} (rest : ¬fails → context.Visits (next ()) refs) :
    context.Visits (if fails then throw failure >>= next else next ()) refs := by
  by_cases failed : fails
  · rw [if_pos failed]
    intro joins result after done
    cases done
  · rw [if_neg failed]
    exact rest failed

theorem visits_mapM {step : FieldRef → CompileM β} (each : ∀ ref, context.Visits (step ref) [ref])
    (refs : List FieldRef) : context.Visits (refs.mapM step) refs := by
  induction refs with
  | nil => exact visits_pure
  | cons ref rest ih =>
      rw [List.mapM_cons]
      exact visits_bind (each ref) fun first => visits_first ih fun others => visits_pure

end Steps

theorem visits_resolve (clause : String) (ref : FieldRef) :
    context.Visits (context.resolve clause ref) [ref] :=
  fun _ _ _ resolved => .cons resolved .nil

theorem visits_lowerCompare (comparison : Comparison) (ref : FieldRef) (value : Json) :
    context.Visits (context.lowerCompare comparison ref value) [ref] := by
  refine visits_first (visits_resolve "filter" ref) fun field => ?_
  split
  · split
    · exact visits_pure
    · exact visits_pure
    · exact visits_throw
  · exact visits_yields_bind (fun _ => yields_lift fun _ typed => typed) fun cell => visits_pure

mutual

theorem visits_lowerFilter (filter : Filter) :
    context.Visits (context.lowerFilter filter) filter.references := by
  cases filter with
  | all => exact visits_pure
  | and clauses | or clauses =>
      rw [lowerFilter]
      exact visits_first (visits_lowerClauses clauses) fun lowered => visits_pure
  | not clause =>
      rw [lowerFilter]
      refine visits_first (visits_lowerFilter clause) fun result => ?_
      cases result with
      | none => exact visits_throw
      | some predicate => exact visits_pure
  | compare comparison ref value =>
      rw [lowerFilter]
      exact visits_first (visits_lowerCompare comparison ref value) fun predicate => visits_pure
  | between ref least greatest =>
      rw [lowerFilter]
      refine visits_first (visits_resolve "filter" ref) fun field => ?_
      refine visits_yields_bind (fun _ => yields_lift fun _ typed => typed) fun least => ?_
      exact visits_yields_bind (fun _ => yields_lift fun _ typed => typed) fun greatest =>
        visits_pure
  | isNull ref | notNull ref | startsWith ref _ | contains ref _ =>
      rw [lowerFilter]
      exact visits_first (visits_resolve "filter" ref) fun field => visits_pure

theorem visits_lowerClauses (clauses : List Filter) :
    context.Visits (context.lowerClauses clauses) (Filter.referencesOfEach clauses) := by
  cases clauses with
  | nil => exact visits_pure
  | cons clause rest =>
      rw [lowerClauses]
      refine visits_bind (visits_lowerFilter clause) fun first => ?_
      exact visits_first (visits_lowerClauses rest) fun others => visits_pure

end

theorem visits_lowerBreakout (refs : List FieldRef) (breakout : List PlanField) :
    context.Visits (context.lowerBreakout breakout refs) refs := by
  induction refs generalizing breakout with
  | nil => exact visits_pure
  | cons ref rest ih =>
      rw [lowerBreakout]
      refine visits_bind (visits_resolve "breakout" ref) fun field => ?_
      exact visits_check fun _ => ih _

theorem visits_lowerSource (kind : AggregateKind) (ref : Option FieldRef) :
    context.Visits (context.lowerSource kind ref) ref.toList := by
  cases ref with
  | none => exact visits_pure
  | some ref =>
      refine visits_first (visits_resolve "aggregation" ref) fun field => ?_
      exact visits_check fun _ => visits_pure

theorem visits_lowerRows (query : Query) :
    context.Visits (context.lowerRows query) query.fields := by
  unfold lowerRows
  split
  · next noFields =>
      rw [List.isEmpty_iff.mp noFields]
      exact visits_yields_bind (fun _ => yields_found) fun fields => visits_pure
  · refine visits_mapM (fun ref => ?_) query.fields
    exact visits_first (visits_resolve "fields" ref) fun field => visits_pure

/-- Breakout fields are not asked for without an aggregation, and other fields not with one. -/
theorem visits_lowerColumns (query : Query) :
    context.Visits (context.lowerColumns query)
      (query.fields ++ (query.breakout ++ query.aggregation.source?.toList)) := by
  unfold lowerColumns
  cases isAggregate : aggregateOf query.aggregation with
  | none =>
      refine visits_check fun bare => ?_
      have noBreakout : query.breakout = [] := by simpa using bare
      rw [noBreakout, source?_of_rows isAggregate]
      exact visits_bind (visits_lowerRows query) fun columns => visits_pure
  | some aggregate =>
      obtain ⟨kind, ref⟩ := aggregate
      refine visits_check fun bare => ?_
      have noFields : query.fields = [] := by simpa using bare
      rw [noFields, List.nil_append, aggregateOf_source isAggregate]
      refine visits_bind (visits_lowerBreakout query.breakout []) fun breakout => ?_
      exact visits_first (visits_lowerSource kind ref) fun source => visits_pure

theorem visits_lowerOrder (orderBy : List OrderKey) (aggregated : Bool)
    (breakout : List PlanField) (keys : List PlanOrder) :
    context.Visits (context.lowerOrder aggregated breakout keys orderBy)
      (orderBy.map OrderKey.field) := by
  induction orderBy generalizing keys with
  | nil => exact visits_pure
  | cons key rest ih =>
      rw [lowerOrder]
      refine visits_bind (visits_resolve "order_by" key.field) fun field => ?_
      exact visits_check fun _ => ih _

theorem visits_settle (aggregated : Bool) (keys : List PlanOrder) :
    context.Visits (context.settle aggregated keys) [] := by
  unfold settle
  split
  · refine visits_yields_bind (fun _ => yields_found) fun key => ?_
    cases key with
    | none => exact visits_pure
    | some key => exact visits_pure
  · exact visits_pure

theorem visits_finish (databaseId : Int) (query : Query) (maxRows : Option Nat)
    (filter : Option Predicate) :
    context.Visits (context.finish databaseId query maxRows filter)
      (query.fields ++ (query.breakout ++ query.aggregation.source?.toList) ++
        query.orderBy.map OrderKey.field) := by
  unfold finish
  refine visits_bind (visits_lowerColumns query) fun selected => ?_
  refine visits_first (visits_lowerOrder query.orderBy _ _ _) fun asked => ?_
  refine visits_yields_bind (fun _ => yields_lift fun _ made => made) fun window => ?_
  refine visits_first (visits_settle _ _) fun keys => ?_
  exact visits_yields_bind (fun _ => yields_get) fun joins => visits_pure

theorem visits_filter (filter : Option Filter) :
    context.Visits
      (match filter with
        | some filter => context.lowerFilter filter
        | none => pure none)
      ((filter.map Filter.references).getD []) := by
  cases filter with
  | none => exact visits_pure
  | some filter => exact visits_lowerFilter filter

/-- A compilation resolves all references of the query. -/
theorem resolvesAll_of_compile {databaseId : Int} {query : Query} {maxRows : Option Nat}
    {plan : Plan} {joins after : List PlanJoin}
    (run : context.compile databaseId query maxRows joins = .ok (plan, after)) :
    ∃ refs, refs.Perm query.references ∧ context.ResolvesAll refs joins after := by
  rw [compile_eq_finish] at run
  have visited := visits_bind (visits_filter query.filter) (visits_finish databaseId query maxRows)
    _ _ _ run
  refine ⟨_, ?_, visited⟩
  simp only [Query.references, List.append_assoc]
  exact (((List.perm_append_comm.append_left _).append_left _).append_left _)

end CompileContext

end CrossQuery
