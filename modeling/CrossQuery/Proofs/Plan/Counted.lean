import CrossQuery.Proofs.Plan.Portable
import Mathlib.Algebra.BigOperators.Ring.Finset

/-!
# Plans that count records

The records of each group are counted behind the same joins and the same filter as all records
together. Fields of the source add no joins to those that the filter makes, and without a window
nothing is cut.
-/

set_option autoImplicit false

namespace CrossQuery

/-- A query for the number of records in each group, without a window. Groups are made by fields of
the source; the filter may reach other tables. -/
structure Query.Counts (query : Query) : Prop where
  aggregation : query.aggregation = .count
  breakout : ∀ ref ∈ query.breakout, ref.IsLocal
  orderBy : ∀ key ∈ query.orderBy, key.field.IsLocal
  limit : query.limit = none
  page : query.page = none

/-- The query for all records together. -/
def Query.ungrouped (query : Query) : Query :=
  { query with breakout := [], orderBy := [] }

/-- A plan that counts the records of each group and cuts nothing. -/
structure Plan.Counts (plan : Plan) : Prop where
  columns : plan.columns = plan.breakout.map .field ++ [.aggregate .count none]
  limit : plan.limit = none
  offset : plan.offset = none

/-- The plan that counts all records together. -/
def Plan.ungrouped (plan : Plan) : Plan :=
  { plan with columns := [.aggregate .count none], breakout := [], orderBy := [] }

/-- The number that a row of a count ends in. -/
def countOf? (row : List Cell) : Option Int :=
  row.getLast?.bind Cell.integer?

/-- Rows that count a number of records in groups of some sizes. Without fields to group by all
records are one group, if there are any or not, and with fields no group is empty. -/
structure Plan.Tallies (plan : Plan) (rows : List (List Cell)) (total : Nat) (sizes : List Nat) :
    Prop where
  counts : (rows.map countOf?).Perm (sizes.map fun size : Nat => some (size : Int))
  sum : sizes.sum = total
  whole : plan.breakout = [] → sizes = [total]
  positive : plan.breakout ≠ [] → ∀ size ∈ sizes, 0 < size

theorem Plan.Counts.getLast?_columns {plan : Plan} (counts : plan.Counts) :
    plan.columns.getLast? = some (.aggregate .count none) := by
  rw [counts.columns, List.getLast?_concat]

theorem Plan.Counts.ungrouped {plan : Plan} (counts : plan.Counts) : plan.ungrouped.Counts :=
  ⟨rfl, counts.limit, counts.offset⟩

namespace CompileContext

variable {context : CompileContext} {joins : List PlanJoin}

/-- A field of the source is resolved without a join. -/
theorem yields_resolve_of_local {ref : FieldRef} (isLocal : ref.IsLocal) (clause : String) :
    Yields joins (context.resolve clause ref) fun _ => True := by
  cases isLocal with
  | direct id =>
      refine yields_bind (yields_look fun field found => found) fun field found => ?_
      split
      · exact yields_pure trivial
      · exact yields_throw

theorem yields_lowerBreakout_of_local {refs : List FieldRef} (isLocal : ∀ ref ∈ refs, ref.IsLocal)
    (breakout : List PlanField) :
    Yields joins (context.lowerBreakout breakout refs) fun fields =>
      fields.length = breakout.length + refs.length := by
  induction refs generalizing breakout with
  | nil => exact yields_pure rfl
  | cons ref rest ih =>
      obtain ⟨first, others⟩ := List.forall_mem_cons.mp isLocal
      rw [lowerBreakout]
      refine yields_bind (yields_resolve_of_local first "breakout") fun field _ => ?_
      split
      · exact yields_throw_bind
      · refine (ih others (breakout ++ [field])).imp fun fields length => ?_
        rw [length, List.length_append, List.length_singleton, List.length_cons]
        omega

theorem yields_lowerOrder_of_local {orderBy : List OrderKey}
    (isLocal : ∀ key ∈ orderBy, key.field.IsLocal) (aggregated : Bool)
    (breakout : List PlanField) (keys : List PlanOrder) :
    Yields joins (context.lowerOrder aggregated breakout keys orderBy) fun _ => True := by
  induction orderBy generalizing keys with
  | nil => exact yields_pure trivial
  | cons key rest ih =>
      obtain ⟨first, others⟩ := List.forall_mem_cons.mp isLocal
      rw [lowerOrder]
      refine yields_bind (yields_resolve_of_local first "order_by") fun field _ => ?_
      split
      · exact yields_throw_bind
      · exact ih others _

/-- The plan of a count, once everything is resolved. -/
def counting (context : CompileContext) (databaseId : Int) (joins : List PlanJoin)
    (filter : Option Predicate) (breakout : List PlanField) (orderBy : List PlanOrder) : Plan where
  databaseId := databaseId
  source := context.source
  joins := joins
  columns := breakout.map .field ++ [.aggregate .count none]
  filter := filter
  breakout := breakout
  orderBy := orderBy
  limit := none
  offset := none
  warnings := []

variable {query : Query} (counts : query.Counts)

include counts

theorem yields_lowerColumns_of_counts :
    Yields joins (context.lowerColumns query) fun selected =>
      query.fields = [] ∧ selected.1 = selected.2.map .field ++ [.aggregate .count none] ∧
        selected.2.length = query.breakout.length := by
  have isCount : aggregateOf query.aggregation = some (.count, none) := by
    rw [counts.aggregation]
    rfl
  unfold lowerColumns
  rw [isCount]
  dsimp only
  split
  · exact yields_throw_bind
  · next bare =>
      have noFields : query.fields = [] := by simpa using bare
      refine yields_bind (yields_lowerBreakout_of_local counts.breakout []) fun breakout length => ?_
      refine yields_bind (yields_pure rfl) fun source noSource => ?_
      subst noSource
      exact yields_pure ⟨noFields, rfl, by simpa using length⟩

/-- What is left of the compilation of a count adds no joins to those of the filter. -/
theorem yields_finish_of_counts (databaseId : Int) (maxRows : Option Nat)
    (filter : Option Predicate) :
    Yields joins (context.finish databaseId query maxRows filter) fun plan =>
      query.fields = [] ∧ plan.breakout.length = query.breakout.length ∧
        plan = context.counting databaseId joins filter plan.breakout plan.orderBy := by
  unfold finish
  refine yields_bind (yields_lowerColumns_of_counts counts) fun selected described => ?_
  obtain ⟨columns, breakout⟩ := selected
  obtain ⟨noFields, isColumns, length⟩ := described
  dsimp only at isColumns length ⊢
  have isAggregated : columns.any PlanColumn.isAggregate = true := by
    rw [isColumns]
    simp [PlanColumn.isAggregate]
  refine yields_bind (yields_lowerOrder_of_local counts.orderBy _ _ _) fun asked _ => ?_
  have noWindow : ∀ ordered, query.window ordered = .ok ⟨none, none, []⟩ := by
    intro ordered
    rw [Query.window, counts.page, counts.limit]
  rw [noWindow, isAggregated]
  refine yields_bind (yields_lift fun window made => made) fun window made => ?_
  cases made
  refine yields_bind (yields_pure rfl) fun keys _ => ?_
  refine yields_bind yields_get fun joined same => ?_
  subst same
  refine yields_pure ⟨noFields, length, ?_⟩
  rw [isColumns]
  rfl

/-- Of a count that has no fields and no groups all is left but the filter. -/
theorem finish_ungrouped (noFields : query.fields = []) (databaseId : Int) (maxRows : Option Nat)
    (filter : Option Predicate) :
    context.finish databaseId query.ungrouped maxRows filter joins =
      .ok (context.counting databaseId joins filter [] [], joins) := by
  obtain ⟨_, _, _, _, _, _, _, _⟩ := query
  cases counts.aggregation
  cases counts.limit
  cases counts.page
  cases noFields
  rfl

end CompileContext

variable {query : Query} {catalog : Catalog} {capabilities : Capabilities} {databaseId : Int}
  {maxRows : Option Nat} {plan : Plan}

namespace Plan.Tallies

variable {rows others : List (List Cell)} {total : Nat} {sizes otherSizes : List Nat}

theorem of_perm {moved : List (List Cell)} (tallies : plan.Tallies rows total sizes)
    (perm : moved.Perm rows) : plan.Tallies moved total sizes :=
  { tallies with counts := (perm.map countOf?).trans tallies.counts }

theorem exists_counts (tallies : plan.Tallies rows total sizes) :
    ∃ counts : List Int, rows.map countOf? = counts.map some ∧
      counts.Perm (sizes.map fun size : Nat => (size : Int)) := by
  have each : ∀ count ∈ rows.map countOf?, ∃ number : Int, True ∧ count = some number := by
    intro count member
    obtain ⟨size, _, same⟩ := List.mem_map.mp (tallies.counts.mem_iff.mp member)
    exact ⟨size, trivial, same.symm⟩
  obtain ⟨counts, areCounts, _⟩ := Outcome.exists_eq_map each
  refine ⟨counts, areCounts, ?_⟩
  have perm := tallies.counts
  rw [areCounts, show (fun size : Nat => some (size : Int)) =
    some ∘ fun size : Nat => (size : Int) from rfl, ← List.map_map] at perm
  exact (List.map_perm_map_iff (Option.some_injective Int)).mp perm

/-- The counts of groups add up to the count of all records, and none is less than one unless it
counts all records and there are none. -/
theorem add_up (tallies : plan.Tallies rows total sizes)
    (whole : plan.ungrouped.Tallies others total otherSizes) :
    ∃ counts : List Int, rows.map countOf? = counts.map some ∧
      others.map countOf? = [some counts.sum] ∧
      (plan.breakout ≠ [] ∨ counts.sum ≠ 0 → ∀ count ∈ counts, 1 ≤ count) := by
  obtain ⟨counts, areCounts, perm⟩ := tallies.exists_counts
  have sum : counts.sum = total := by
    rw [perm.sum_eq, ← tallies.sum]
    exact (Nat.cast_list_sum sizes).symm
  refine ⟨counts, areCounts, ?_, fun someRecord count member => ?_⟩
  · have single := whole.counts
    rw [whole.whole rfl] at single
    rw [sum]
    exact List.perm_singleton.mp single
  · obtain ⟨size, isSize, rfl⟩ := List.mem_map.mp (perm.mem_iff.mp member)
    have positive : 0 < size := by
      by_cases ungrouped : plan.breakout = []
      · rw [tallies.whole ungrouped] at isSize
        have some : counts.sum ≠ 0 := someRecord.resolve_left (not_not.mpr ungrouped)
        have same := List.mem_singleton.mp isSize
        omega
      · exact tallies.positive ungrouped size isSize
    omega

end Plan.Tallies

/-- Where a count of groups compiles, so does the count of all records, to the same plan but for the
groups. -/
theorem Query.Counts.of_compile (counts : query.Counts)
    (compiled : query.compile catalog capabilities databaseId maxRows = .ok plan) :
    plan.Counts ∧ (plan.breakout = [] ↔ query.breakout = []) ∧
      query.ungrouped.compile catalog capabilities databaseId maxRows = .ok plan.ungrouped := by
  obtain ⟨source, after, isSource, isHere, run⟩ := run_of_compile compiled
  rw [CompileContext.compile_eq_finish] at run
  obtain ⟨⟨filter, joins⟩, lowered, finished⟩ := Outcome.bind_eq_ok.mp run
  obtain ⟨_, noFields, length, isPlan⟩ :=
    CompileContext.yields_finish_of_counts counts databaseId maxRows filter plan after finished
  refine ⟨?_, ?_, ?_⟩
  · rw [isPlan]
    exact ⟨rfl, rfl, rfl⟩
  · rw [← List.length_eq_zero_iff, length, List.length_eq_zero_iff]
  · have others : (CompileContext.mk catalog capabilities source).compile databaseId
        query.ungrouped maxRows [] = .ok (plan.ungrouped, joins) := by
      rw [CompileContext.compile_eq_finish]
      refine Outcome.bind_eq_ok.mpr ⟨(filter, joins), lowered, ?_⟩
      rw [isPlan]
      exact CompileContext.finish_ungrouped counts noFields databaseId maxRows filter
    have isSourceOf : catalog.table query.ungrouped.sourceTable = .ok source := isSource
    unfold compile
    rw [isSourceOf]
    dsimp only
    rw [if_neg (not_not.mpr isHere)]
    exact Outcome.map_eq_ok.mpr ⟨_, others, rfl⟩

end CrossQuery
