import CrossQuery.Proofs.Cell.Content
import CrossQuery.Proofs.Grouping
import CrossQuery.Proofs.Relational.Filters

/-!
# Rows in groups

Rows are grouped by as many fields as there are. Two rows are in one group exactly when they agree
in each of the fields, and no row of one group agrees with a row of another.
-/

set_option autoImplicit false

namespace CrossQuery.Relational

variable {scope : Scope} {naming : Naming} {breakout : List PlanField}

/-- The cells of fields in a row. -/
def Scope.cellsOf (scope : Scope) (naming : Naming) (breakout : List PlanField)
    (row : List Cell) : List Cell :=
  breakout.map (scope.cellOf naming row)

/-- Rows that agree in each field. -/
def Scope.RowsAgree (scope : Scope) (naming : Naming) (breakout : List PlanField)
    (left right : List Cell) : Prop :=
  ∀ field ∈ breakout, (scope.cellOf naming left field).Agree (scope.cellOf naming right field)

theorem Scope.evaluateAll_columns
    (resolved : ∀ field ∈ breakout, ∃ found, scope.resolveField naming field = .ok found)
    (row : List Cell) :
    scope.evaluateAll row (breakout.map (columnOfField naming)) =
      .ok (scope.cellsOf naming breakout row) := by
  rw [evaluateAll_eq_mapM, List.mapM_map]
  refine Outcome.mapM_eq_ok_map fun field member => ?_
  obtain ⟨found, isFound⟩ := resolved field member
  exact evaluate_columnOfField isFound

/-- Rows are grouped by the keys of their cells. -/
theorem Scope.group_columns (someField : breakout ≠ [])
    (resolved : ∀ field ∈ breakout, ∃ found, scope.resolveField naming field = .ok found)
    (rows : List (List Cell)) :
    scope.group (breakout.map (columnOfField naming)) rows =
      .ok ((Grouping.groups
          (fun row => (scope.cellsOf naming breakout row).map Cell.groupKey) rows).map
        fun group => ⟨scope.cellsOf naming breakout group.1, group.2⟩) := by
  have keyed : scope.keyed (breakout.map (columnOfField naming)) rows =
      .ok (rows.map fun row => (scope.cellsOf naming breakout row, row)) := by
    refine Outcome.mapM_eq_ok_map fun row _ => ?_
    rw [evaluateAll_columns resolved]
    rfl
  have agree : Grouping.KeysAgree
      (fun row => (scope.cellsOf naming breakout row).map Cell.groupKey)
      (fun entry : List Cell × List Cell => entry.1.map Cell.groupKey)
      (fun row => (scope.cellsOf naming breakout row, row)) rows :=
    .of_same fun _ _ => rfl
  have some : (breakout.map (columnOfField naming)).isEmpty = false := by
    simpa using someField
  rw [group, some, if_neg Bool.false_ne_true, keyed, Outcome.ok_bind, Grouping.groups_map agree]
  refine congrArg Except.ok ?_
  rw [List.map_map]
  refine List.map_congr_left fun group _ => ?_
  rw [Function.comp_apply, List.map_map]
  exact congrArg _ (List.map_id _)

/-- The cells of two rows have the same keys exactly when the rows agree in each field. -/
theorem Scope.groupKeys_eq_iff {rows : List (List Cell)}
    (kinds : ∀ field ∈ breakout, ∃ kind : Kind, ∀ row ∈ rows,
      kind.Holds (scope.cellOf naming row field))
    {left right : List Cell} (isLeft : left ∈ rows) (isRight : right ∈ rows) :
    (scope.cellsOf naming breakout left).map Cell.groupKey =
        (scope.cellsOf naming breakout right).map Cell.groupKey ↔
      scope.RowsAgree naming breakout left right := by
  rw [cellsOf, cellsOf, List.map_map, List.map_map, List.map_inj_left]
  refine forall₂_congr fun field member => ?_
  obtain ⟨kind, holds⟩ := kinds field member
  exact Cell.groupKey_eq_iff (holds left isLeft) (holds right isRight)

/-- The groups are made of all rows, two rows are in one exactly when they agree in each field, and
no rows of different groups do. -/
theorem Scope.group_partitions {rows : List (List Cell)} (someField : breakout ≠ [])
    (resolved : ∀ field ∈ breakout, ∃ found, scope.resolveField naming field = .ok found)
    (kinds : ∀ field ∈ breakout, ∃ kind : Kind, ∀ row ∈ rows,
      kind.Holds (scope.cellOf naming row field)) :
    ∃ groups, scope.group (breakout.map (columnOfField naming)) rows = .ok groups ∧
      (groups.flatMap Group.rows).Perm rows ∧
      (groups.Pairwise fun group other => ∀ left ∈ group.rows, ∀ right ∈ other.rows,
        ¬scope.RowsAgree naming breakout left right) ∧
      ∀ left ∈ rows, ∀ right ∈ rows,
        (∃ group ∈ groups, left ∈ group.rows ∧ right ∈ group.rows) ↔
          scope.RowsAgree naming breakout left right := by
  refine ⟨_, group_columns someField resolved rows, ?_, ?_, ?_⟩
  · rw [List.flatMap_map]
    exact Grouping.groups_perm rows
  · rw [List.pairwise_map]
    exact Grouping.pairwise_groups fun left isLeft right isRight =>
      (groupKeys_eq_iff kinds isLeft isRight).mpr
  · intro left isLeft right isRight
    have together : (∃ group ∈ Grouping.groups
          (fun row => (scope.cellsOf naming breakout row).map Cell.groupKey) rows,
          left ∈ group.2 ∧ right ∈ group.2) ↔
        (scope.cellsOf naming breakout left).map Cell.groupKey =
          (scope.cellsOf naming breakout right).map Cell.groupKey :=
      Grouping.exists_group_iff isLeft isRight
    rw [← groupKeys_eq_iff kinds isLeft isRight, ← together]
    simp only [List.mem_map, exists_exists_and_eq_and]

end CrossQuery.Relational
