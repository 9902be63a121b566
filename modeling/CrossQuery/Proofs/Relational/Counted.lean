import CrossQuery.Proofs.Agreement.Aggregates
import CrossQuery.Proofs.Plan.Counted
import CrossQuery.Proofs.Relational.Completed

/-!
# Counts of rows

A database puts every row that passes the filter into one group, and counts the rows of each.
-/

set_option autoImplicit false

namespace CrossQuery.Relational

open Select

section Groups

variable {scope : Scope} {rows kept : List (List Cell)}

theorem Scope.sublist_of_filter {condition : Option Expression}
    (filtered : scope.filter condition rows = .ok kept) : List.Sublist kept rows := by
  cases condition with
  | none =>
      cases filtered
      exact .refl _
  | some condition =>
      obtain ⟨others, held, sublist⟩ := exists_holding (truth_of_holding filtered)
      obtain rfl := Except.ok.inj (held.symm.trans filtered)
      exact sublist

/-- Rows are either all in one group, or distributed over groups none of which is empty. -/
theorem Scope.sizes_of_group {groupBy : List Expression} {groups : List Group}
    (grouped : scope.group groupBy rows = .ok groups) :
    (groups.map fun group => group.rows.length).sum = rows.length ∧
      (groupBy = [] → groups = [⟨[], rows⟩]) ∧
      (groupBy ≠ [] → ∀ group ∈ groups, 0 < group.rows.length) := by
  cases groupBy with
  | nil =>
      cases grouped
      exact ⟨Nat.add_zero _, fun _ => rfl, fun someKey => absurd rfl someKey⟩
  | cons key rest =>
      obtain ⟨keyed, areKeyed, grouped⟩ := Outcome.bind_eq_ok.mp grouped
      obtain rfl := Except.ok.inj grouped
      have sameLength : keyed.length = rows.length := by
        simpa using (congrArg List.length (Outcome.mapM_eq_ok_iff.mp areKeyed)).symm
      have total : ((Grouping.groups (fun entry : List Cell × List Cell =>
          entry.1.map Cell.groupKey) keyed).map fun group => group.2.length).sum =
            keyed.length :=
        Grouping.sum_length_groups keyed
      refine ⟨?_, nofun, fun _ group member => ?_⟩
      · rw [List.map_map, ← sameLength, ← total]
        simp only [Function.comp_def, List.length_map]
      · obtain ⟨members, isGroup, rfl⟩ := List.mem_map.mp member
        rw [List.length_map]
        exact Grouping.length_pos_of_mem_groups isGroup

end Groups

section Rows

variable {plan : Plan} {statement : Statement} {scope : Scope} {breakout : List PlanField}

/-- The statement of a count ends in the number of rows, and has neither limit nor offset. -/
structure Counting (statement : Statement) (breakout : List PlanField) : Prop where
  projections : ∃ name,
    statement.projections.getLast? = some ⟨.aggregate "COUNT" [.wildcard] false, name⟩
  groupBy : statement.groupBy = breakout.map (columnOfField .upperCase)
  limit : statement.limit = none
  offset : statement.offset = none

theorem counting_statementOfPlan (counts : plan.Counts)
    (written : statementOfPlan .upperCase plan = .ok statement) :
    Counting (refiltered statement) plan.breakout := by
  obtain ⟨projections, projected, same⟩ := Outcome.bind_eq_ok.mp written
  cases same
  obtain ⟨projection, isProjection, found⟩ :=
    Outcome.getLast?_of_mapM projected counts.getLast?_columns
  cases isProjection
  exact ⟨⟨_, found⟩, rfl, counts.limit, counts.offset⟩

theorem Counting.isAggregate (counting : Counting statement breakout) :
    statement.isAggregate = true := by
  obtain ⟨name, isLast⟩ := counting.projections
  rw [Statement.isAggregate, Bool.or_eq_true, List.any_eq_true]
  exact .inr ⟨_, List.mem_of_getLast? isLast, rfl⟩

theorem Counting.countOf?_orderedRow (counting : Counting statement breakout) {group : Group}
    {row : OrderedRow}
    (made : orderedRow statement (group.evaluate scope statement.groupBy) = .ok row)
    (few : group.rows.length < 2 ^ 63) :
    countOf? row.values = some (group.rows.length : Int) := by
  obtain ⟨values, areValues, made⟩ := Outcome.bind_eq_ok.mp made
  obtain ⟨_, _, same⟩ := Outcome.bind_eq_ok.mp made
  obtain rfl := Except.ok.inj same
  obtain ⟨name, isLast⟩ := counting.projections
  obtain ⟨value, isValue, found⟩ := Outcome.getLast?_of_mapM areValues isLast
  have counted : group.evaluate scope (breakout.map (columnOfField .upperCase))
      (.aggregate "COUNT" [.wildcard] false) = .ok (.int64 (Int64.ofNat group.rows.length)) := by
    rw [evaluate_aggregate, Group.aggregate, if_pos ⟨rfl, rfl⟩]
  rw [counting.groupBy, counted] at isValue
  cases isValue
  rw [countOf?, found]
  exact congrArg some (Int64.toInt_ofNat_of_lt few)

theorem Counting.exists_tallies (counting : Counting statement plan.breakout) {joined : Joined}
    {kept : List (List Cell)} {ordered : List OrderedRow}
    (made : joined.answerRows statement kept = .ok ordered) (few : kept.length < 2 ^ 63) :
    ∃ sizes, plan.Tallies (ordered.map OrderedRow.values) kept.length sizes := by
  rw [Joined.answerRows, if_pos counting.isAggregate] at made
  obtain ⟨groups, grouped, made⟩ := Outcome.bind_eq_ok.mp made
  obtain ⟨sum, whole, positive⟩ := Scope.sizes_of_group grouped
  have fits : ∀ group ∈ groups, group.rows.length < 2 ^ 63 := by
    intro group member
    have isSize : group.rows.length ∈ groups.map fun group => group.rows.length :=
      List.mem_map_of_mem member
    exact Nat.lt_of_le_of_lt ((List.le_sum_of_mem isSize).trans sum.le) few
  have counted : ordered.map (fun row => countOf? row.values) =
      groups.map fun group : Group => some (group.rows.length : Int) :=
    Outcome.map_eq_map_of_mapM made fun group member row isRow =>
      counting.countOf?_orderedRow isRow (fits group member)
  refine ⟨groups.map fun group => group.rows.length, ?_, sum, ?_, ?_⟩
  · rw [List.map_map, List.map_map]
    exact .of_eq counted
  · intro ungrouped
    rw [counting.groupBy, ungrouped] at whole
    rw [whole rfl]
    rfl
  · intro someField size member
    obtain ⟨group, isGroup, rfl⟩ := List.mem_map.mp member
    refine positive ?_ group isGroup
    rw [counting.groupBy, ne_eq, List.map_eq_nil_iff]
    exact someField

end Rows

namespace Database

variable {database : Database} {plan : Plan} {statement : Statement}

/-- What a database answers to a count are the sizes of groups of the rows that pass the filter. -/
theorem tallies_of_answer (counts : plan.Counts)
    (written : statementOfPlan .upperCase plan = .ok statement) {answer : Rowset}
    (answered : database.answer (refiltered statement) = .ok answer)
    (few : ∀ joined, database.source statement = .ok joined → joined.rows.length < 2 ^ 63) :
    ∃ joined kept sizes, database.source statement = .ok joined ∧
      joined.scope.filter (refiltered statement).filter joined.rows = .ok kept ∧
      plan.Tallies answer.rows kept.length sizes := by
  have counting := counting_statementOfPlan counts written
  obtain ⟨joined, isSource, answered⟩ := Outcome.bind_eq_ok.mp answered
  obtain ⟨kept, filtered, answered⟩ := Outcome.bind_eq_ok.mp answered
  obtain ⟨columns, _, answered⟩ := Outcome.bind_eq_ok.mp answered
  obtain ⟨ordered, made, same⟩ := Outcome.bind_eq_ok.mp answered
  obtain rfl := Except.ok.inj same
  have part := (Scope.sublist_of_filter filtered).length_le
  obtain ⟨sizes, tallies⟩ :=
    counting.exists_tallies made (Nat.lt_of_le_of_lt part (few joined isSource))
  have sorted : (sortRows (refiltered statement).orderBy ordered).Perm ordered :=
    List.mergeSort_perm _ _
  refine ⟨joined, kept, sizes, isSource, filtered, tallies.of_perm ?_⟩
  rw [counting.limit, counting.offset]
  exact sorted.map OrderedRow.values

/-- The answer to a count is that to the statement that its text is read as. -/
theorem answer_of_answerPlan (counts : plan.Counts)
    (expressible : ∀ predicate ∈ plan.filter, ∀ cell ∈ predicate.values, cell.Expressible)
    (written : statementOfPlan .upperCase plan = .ok statement) {answer : Rowset}
    (answered : database.answerPlan .upperCase plan = .ok (.ok answer)) :
    database.answer (refiltered statement) = .ok answer := by
  have planned : statement.Planned fun _ => True := by
    refine planned_of_operands written ?_ (fun predicate isFilter cell compared =>
      operand_of_expressible (expressible predicate isFilter cell compared)) ?_ ?_
    · rw [counts.columns]
      exact List.concat_ne_nil _ _
    · rw [counts.limit]
      exact nofun
    · rw [counts.offset]
      exact nofun
  rw [answerPlan_of_planned written planned, reread_statementOfPlan written planned] at answered
  exact Outcome.mapError_eq_ok.mp (Except.ok.inj answered)

/-- The groups that a database counts are made of as many rows as it counts all together. -/
theorem tallies_of_answerPlan (counts : plan.Counts)
    (expressible : ∀ predicate ∈ plan.filter, ∀ cell ∈ predicate.values, cell.Expressible)
    (few : ∀ statement joined, statementOfPlan .upperCase plan = .ok statement →
      database.source statement = .ok joined → joined.rows.length < 2 ^ 63)
    {grouped whole : Rowset} (isGrouped : database.answerPlan .upperCase plan = .ok (.ok grouped))
    (isWhole : database.answerPlan .upperCase plan.ungrouped = .ok (.ok whole)) :
    ∃ total sizes others, plan.Tallies grouped.rows total sizes ∧
      plan.ungrouped.Tallies whole.rows total others := by
  obtain ⟨statement, written, _⟩ := Outcome.bind_eq_ok.mp isGrouped
  obtain ⟨other, otherWritten, _⟩ := Outcome.bind_eq_ok.mp isWhole
  have sameRows : database.source other = database.source statement ∧
      (refiltered other).filter = (refiltered statement).filter := by
    obtain ⟨_, _, same⟩ := Outcome.bind_eq_ok.mp written
    obtain ⟨_, _, otherSame⟩ := Outcome.bind_eq_ok.mp otherWritten
    cases same
    cases otherSame
    exact ⟨rfl, rfl⟩
  obtain ⟨joined, kept, sizes, isSource, filtered, tallies⟩ :=
    tallies_of_answer counts written (answer_of_answerPlan counts expressible written isGrouped)
      fun joined => few statement joined written
  obtain ⟨otherJoined, otherKept, others, otherSource, otherFiltered, otherTallies⟩ :=
    tallies_of_answer counts.ungrouped otherWritten
      (answer_of_answerPlan counts.ungrouped expressible otherWritten isWhole)
      fun joined isSource => few statement joined written (sameRows.1 ▸ isSource)
  rw [sameRows.1, isSource] at otherSource
  obtain rfl := Except.ok.inj otherSource
  rw [sameRows.2, filtered] at otherFiltered
  obtain rfl := Except.ok.inj otherFiltered
  exact ⟨kept.length, sizes, others, tallies, otherTallies⟩

end Database

end CrossQuery.Relational
