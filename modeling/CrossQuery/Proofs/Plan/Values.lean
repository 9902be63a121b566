import CrossQuery.Proofs.Plan.Portable
import CrossQuery.Proofs.Predicate.Truth

/-!
# The values of filters

A plan compares fields with what the values of its query are read as. Where the numbers of the query
are finite, so are those of the plan.
-/

set_option autoImplicit false

namespace CrossQuery

namespace Filter

mutual

/-- The values that a filter compares fields with. -/
def values : Filter → List Json
  | .and clauses => valuesOfEach clauses
  | .or clauses => valuesOfEach clauses
  | .not clause => clause.values
  | .compare _ _ value => [value]
  | .between _ least greatest => [least, greatest]
  | .isNull _ | .notNull _ | .startsWith _ _ | .contains _ _ | .all => []

def valuesOfEach : List Filter → List Json
  | [] => []
  | clause :: rest => clause.values ++ valuesOfEach rest

end

end Filter

/-- A cell that is no infinite number, and none in 32 bits. -/
structure Cell.Expressible (cell : Cell) : Prop where
  wide : ∀ value, cell ≠ .float32 value
  finite : ∀ value, cell = .float64 value → value.isFinite = true

/-- A query that compares fields with finite numbers only. -/
def Query.IsFinite (query : Query) : Prop :=
  ∀ filter, query.filter = some filter → ∀ value ∈ filter.values, (Cell.ofJson value).Expressible

namespace CompileContext

variable {context : CompileContext}

theorem expressible_of_typedScalar {field : PlanField} {role : String} {value : Json} {cell : Cell}
    (typed : typedScalar field role value = .ok cell)
    (expressible : (Cell.ofJson value).Expressible) : cell.Expressible := by
  obtain ⟨_, isCell⟩ := typedScalar_eq_ok typed
  split at isCell
  · obtain ⟨date, _, rfl⟩ := isCell
    exact ⟨(fun _ same => by cases same), fun _ same => by cases same⟩
  · obtain ⟨timestamp, _, rfl⟩ := isCell
    exact ⟨(fun _ same => by cases same), fun _ same => by cases same⟩
  · rw [isCell]
    exact expressible

/-- What the fields of a predicate are compared with, if there is a predicate, is expressible. -/
def Expresses (lowered : Option Predicate) : Prop :=
  ∀ predicate, lowered = some predicate → ∀ cell ∈ predicate.values, cell.Expressible

theorem expresses_some {predicate : Predicate}
    (each : ∀ cell ∈ predicate.values, cell.Expressible) : Expresses (some predicate) := by
  intro other same
  cases same
  exact each

theorem expresses_valuesOfEach {lowered : List (Option Predicate)}
    (each : ∀ result ∈ lowered, Expresses result) :
    ∀ cell ∈ Predicate.valuesOfEach (lowered.filterMap id), cell.Expressible := by
  intro cell compared
  obtain ⟨clause, isClause, isValue⟩ := Predicate.mem_valuesOfEach.mp compared
  obtain ⟨result, isResult, same⟩ := List.mem_filterMap.mp isClause
  exact each result isResult clause same cell isValue

theorem expresses_conjunction {lowered : List (Option Predicate)}
    (each : ∀ result ∈ lowered, Expresses result) :
    Expresses (conjunction (lowered.filterMap id)) := by
  have all := expresses_valuesOfEach each
  generalize lowered.filterMap id = clauses at all ⊢
  unfold conjunction
  split
  · exact fun _ same => by cases same
  · exact expresses_some fun cell isValue => all cell (List.mem_append_left _ isValue)
  · exact expresses_some all

theorem expresses_disjunction {lowered : List (Option Predicate)}
    (each : ∀ result ∈ lowered, Expresses result) : Expresses (disjunction lowered) := by
  have all := expresses_valuesOfEach each
  unfold disjunction
  split
  · exact fun _ same => by cases same
  · generalize lowered.filterMap id = clauses at all ⊢
    split
    · exact expresses_some fun cell isValue => all cell (List.mem_append_left _ isValue)
    · exact expresses_some all

theorem gives_expresses_test (ref : FieldRef) {test : PlanField → Predicate}
    (noValues : ∀ field, (test field).values = []) :
    Gives (do return some (test (← context.resolve "filter" ref))) Expresses := by
  refine gives_bind (gives_any _) fun field _ => ?_
  refine gives_pure (expresses_some fun cell isValue => ?_)
  rw [noValues] at isValue
  cases isValue

theorem gives_expresses_lowerCompare (comparison : Comparison) (ref : FieldRef) {value : Json}
    (finite : (Cell.ofJson value).Expressible) :
    Gives (context.lowerCompare comparison ref value) fun predicate =>
      ∀ cell ∈ predicate.values, cell.Expressible := by
  refine gives_bind (gives_any _) fun field _ => ?_
  split
  · split
    · exact gives_pure fun cell isValue => absurd isValue List.not_mem_nil
    · exact gives_pure fun cell isValue => absurd isValue List.not_mem_nil
    · exact gives_throw
  · refine gives_bind (gives_lift fun cell typed => typed) fun cell typed => ?_
    exact gives_pure (List.forall_mem_singleton.mpr (expressible_of_typedScalar typed finite))

mutual

/-- A filter on finite numbers is lowered to a predicate on such, if to any. -/
theorem gives_expresses (filter : Filter)
    (finite : ∀ value ∈ filter.values, (Cell.ofJson value).Expressible) :
    Gives (context.lowerFilter filter) Expresses := by
  cases filter with
  | all => exact gives_pure fun predicate same => by cases same
  | and clauses =>
      rw [lowerFilter]
      refine gives_bind (gives_expresses_lowerClauses clauses finite) fun lowered each => ?_
      exact gives_pure (expresses_conjunction each)
  | or clauses =>
      rw [lowerFilter]
      refine gives_bind (gives_expresses_lowerClauses clauses finite) fun lowered each => ?_
      exact gives_pure (expresses_disjunction each)
  | not clause =>
      rw [lowerFilter]
      refine gives_bind (gives_expresses clause finite) fun lowered each => ?_
      cases lowered with
      | none => exact gives_throw
      | some predicate => exact gives_pure (expresses_some (each predicate rfl))
  | compare comparison ref value =>
      rw [lowerFilter]
      have isValue : (Cell.ofJson value).Expressible := finite value (.head _)
      exact gives_bind (gives_expresses_lowerCompare comparison ref isValue) fun predicate each =>
        gives_pure (expresses_some each)
  | between ref least greatest =>
      rw [lowerFilter]
      refine gives_bind (gives_any _) fun field _ => ?_
      refine gives_bind (gives_lift fun cell typed => typed) fun low typedLow => ?_
      refine gives_bind (gives_lift fun cell typed => typed) fun high typedHigh => ?_
      have isLow := expressible_of_typedScalar typedLow (finite least (.head _))
      have isHigh := expressible_of_typedScalar typedHigh (finite greatest (.tail _ (.head _)))
      exact gives_pure (expresses_some (List.forall_mem_cons.mpr
        ⟨isLow, List.forall_mem_singleton.mpr isHigh⟩))
  | isNull ref | notNull ref | startsWith ref _ | contains ref _ =>
      rw [lowerFilter]
      exact gives_expresses_test ref fun _ => rfl

theorem gives_expresses_lowerClauses (clauses : List Filter)
    (finite : ∀ value ∈ Filter.valuesOfEach clauses, (Cell.ofJson value).Expressible) :
    Gives (context.lowerClauses clauses) fun lowered => ∀ result ∈ lowered, Expresses result := by
  cases clauses with
  | nil => exact gives_pure fun result member => absurd member List.not_mem_nil
  | cons clause rest =>
      rw [lowerClauses]
      refine gives_bind (gives_expresses clause fun value isValue =>
        finite value (List.mem_append_left _ isValue)) fun lowered fact => ?_
      refine gives_bind (gives_expresses_lowerClauses rest fun value isValue =>
        finite value (List.mem_append_right _ isValue)) fun others facts => ?_
      exact gives_pure (List.forall_mem_cons.mpr ⟨fact, facts⟩)

end

end CompileContext

theorem Query.IsFinite.expresses {query : Query} (finite : query.IsFinite) {catalog : Catalog}
    {capabilities : Capabilities} {databaseId : Int} {maxRows : Option Nat} {plan : Plan}
    (compiled : query.compile catalog capabilities databaseId maxRows = .ok plan) :
    ∀ predicate ∈ plan.filter, ∀ cell ∈ predicate.values, cell.Expressible := by
  obtain ⟨source, after, _, _, run⟩ := run_of_compile compiled
  rw [CompileContext.compile_eq_finish] at run
  obtain ⟨⟨filter, joins⟩, lowered, finished⟩ := Outcome.bind_eq_ok.mp run
  rw [CompileContext.filter_of_finish finished]
  cases isFilter : query.filter with
  | none =>
      rw [isFilter] at lowered
      cases lowered
      exact fun predicate same => by cases same
  | some asked =>
      rw [isFilter] at lowered
      exact CompileContext.gives_expresses asked (finite asked isFilter) [] filter joins lowered

end CrossQuery
