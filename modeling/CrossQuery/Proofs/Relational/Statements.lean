import CrossQuery.Proofs.Predicate.Truth
import CrossQuery.Proofs.Select.Planned
import CrossQuery.Relational.Selection

/-!
# The texts of statements of plans

The statement of a plan has only expressions whose text is read back: every part of a condition
stands in parentheses, and every column is qualified and quoted.
-/

set_option autoImplicit false

namespace CrossQuery

/-- A value that the text of a statement keeps: no float, and no integer without an opposite. -/
structure Cell.Writable (cell : Cell) : Prop where
  exact32 : ∀ value, cell ≠ .float32 value
  exact64 : ∀ value, cell ≠ .float64 value
  opposite : ∀ value ∈ cell.integer?, Int64.minValue.toInt < value

namespace Relational

open Select

theorem column_columnOfField (naming : Naming) (field : PlanField) :
    (columnOfField naming field).IsColumn :=
  ⟨_, _, rfl⟩

theorem operand_of_integer {value : Int} (above : Int64.minValue.toInt < value)
    (below : value < 2 ^ 63) :
    Expression.Operand Literal.Exact (.literal (.integer (Int64.ofInt value))) := by
  refine .integer fun least => ?_
  rw [Int64.toInt_minValue] at above
  have shown := Int64.toInt_ofInt_of_le (Int.le_of_lt above) below
  rw [least, Int64.toInt_minValue] at shown
  omega

theorem operand_constantOfCell {cell : Cell} (writable : cell.Writable) :
    (constantOfCell cell).Operand Literal.Exact := by
  cases cell with
  | null => exact .null
  | bool value => exact .boolean
  | int16 value =>
      have below := value.toInt_lt
      exact operand_of_integer (writable.opposite _ rfl) (by omega)
  | int32 value =>
      have below := value.toInt_lt
      exact operand_of_integer (writable.opposite _ rfl) (by omega)
  | int64 value => exact operand_of_integer (writable.opposite _ rfl) value.toInt_lt
  | float32 value => exact absurd rfl (writable.exact32 value)
  | float64 value => exact absurd rfl (writable.exact64 value)
  | date value => exact .moment (by decide)
  | timestamp value => exact .moment (by decide)
  | _ => exact .text

variable {fits : Literal → Prop}

/-- Conditions that are joined are a condition. -/
theorem condition_joinConditions {operator : BinaryOperator} (connects : operator.Connects)
    (constant : Bool) {conditions : List Expression}
    (all : ∀ condition ∈ conditions, condition.Condition fits) :
    (joinConditions operator constant conditions).Condition fits := by
  cases conditions with
  | nil => exact .constant
  | cons first rest =>
      exact .chain connects (all first List.mem_cons_self) fun condition member =>
        all condition (List.mem_cons_of_mem _ member)

mutual

/-- The condition of a predicate is read back. -/
theorem condition_condition (naming : Naming) : (predicate : Predicate) →
    (∀ cell ∈ predicate.values, (constantOfCell cell).Operand fits) →
    (condition naming predicate).Condition fits
  | .and clauses, writable =>
      condition_joinConditions (.inl rfl) true (condition_conditions naming clauses writable)
  | .or clauses, writable =>
      condition_joinConditions (.inr rfl) false (condition_conditions naming clauses writable)
  | .not clause, writable => .not (condition_condition naming clause writable)
  | .compare _ _ cell, writable => .compare (writable cell (.head _))
  | .between _ least greatest, writable =>
      .between (writable least (.head _)) (writable greatest (.tail _ (.head _)))
  | .isNull _ _, _ => .isNull
  | .startsWith _ _, _ => .like
  | .contains _ _, _ => .like

theorem condition_conditions (naming : Naming) : (clauses : List Predicate) →
    (∀ cell ∈ Predicate.valuesOfEach clauses, (constantOfCell cell).Operand fits) →
    ∀ condition ∈ conditions naming clauses, condition.Condition fits
  | [], _, _, member => absurd member List.not_mem_nil
  | clause :: rest, writable, condition, member => by
      rcases List.mem_cons.mp member with rfl | member
      · exact condition_condition naming clause fun cell compared =>
          writable cell (List.mem_append_left _ compared)
      · exact condition_conditions naming rest
          (fun cell compared => writable cell (List.mem_append_right _ compared)) condition member

end

theorem projected_aggregateExpression {naming : Naming} {kind : AggregateKind}
    {source : Option PlanField} {expression : Expression}
    (computed : aggregateExpression naming kind source = .ok expression) :
    expression.Projected := by
  have isType : ∀ type, sumType type ∈ aggregateTypes := by
    intro type
    cases type <;> decide
  cases kind <;> cases source <;> cases computed
  · exact .count
  · exact .count
  · exact .converted (by decide) (isType _)
  · exact .distinct
  · exact .converted (by decide) (by decide)

theorem projected_projectionOfColumn {naming : Naming} {column : PlanColumn}
    {projection : Projection} (projected : projectionOfColumn naming column = .ok projection) :
    projection.expression.Projected := by
  cases column with
  | field field =>
      cases projected
      exact .column
  | aggregate kind source =>
      obtain ⟨expression, computed, same⟩ := Outcome.bind_eq_ok.mp projected
      cases same
      exact projected_aggregateExpression computed

/-- The statement of a plan has the shapes that are read back, if its constants have them. -/
theorem planned_of_operands {naming : Naming} {plan : Plan} {statement : Statement}
    (written : statementOfPlan naming plan = .ok statement) (columns : plan.columns ≠ [])
    (operands : ∀ predicate ∈ plan.filter, ∀ cell ∈ predicate.values,
      (constantOfCell cell).Operand fits)
    (limit : ∀ count ∈ plan.limit, count < 2 ^ 64)
    (offset : ∀ count ∈ plan.offset, count < 2 ^ 64) : statement.Planned fits := by
  obtain ⟨projections, projected, same⟩ := Outcome.bind_eq_ok.mp written
  cases same
  have each := Outcome.mapM_eq_ok_iff.mp projected
  refine ⟨?_, ?_, ?_, ?_, ?_, ?_, limit, offset⟩
  · rintro rfl
    exact columns (List.map_eq_nil_iff.mp each)
  · intro projection member
    have isImage : .ok projection ∈ plan.columns.map (projectionOfColumn naming) :=
      each ▸ List.mem_map_of_mem member
    obtain ⟨column, -, image⟩ := List.mem_map.mp isImage
    exact projected_projectionOfColumn image
  · intro join member
    obtain ⟨planJoin, -, rfl⟩ := List.mem_map.mp member
    exact .compare .column
  · intro filter isFilter
    obtain ⟨predicate, isPredicate, rfl⟩ := Option.map_eq_some_iff.mp isFilter
    exact condition_condition naming predicate (operands predicate isPredicate)
  · intro key member
    obtain ⟨field, -, rfl⟩ := List.mem_map.mp member
    exact column_columnOfField naming field
  · intro key member
    obtain ⟨order, -, rfl⟩ := List.mem_map.mp member
    exact column_columnOfField naming order.field

/-- The statement of a plan whose values are writable has the shapes that are read back. -/
theorem planned_statementOfPlan {naming : Naming} {plan : Plan} {statement : Statement}
    (written : statementOfPlan naming plan = .ok statement) (columns : plan.columns ≠ [])
    (writable : ∀ predicate ∈ plan.filter, ∀ cell ∈ predicate.values, cell.Writable)
    (limit : ∀ count ∈ plan.limit, count < 2 ^ 64)
    (offset : ∀ count ∈ plan.offset, count < 2 ^ 64) : statement.Planned Literal.Exact :=
  planned_of_operands written columns
    (fun predicate isFilter cell compared =>
      operand_constantOfCell (writable predicate isFilter cell compared)) limit offset

/-- The text of a plan's statement is read as the statement, with every negative integer as its
opposite behind a minus sign. -/
theorem parse_write_statementOfPlan {naming : Naming} {plan : Plan} {statement : Statement}
    (written : statementOfPlan naming plan = .ok statement) (columns : plan.columns ≠ [])
    (writable : ∀ predicate ∈ plan.filter, ∀ cell ∈ predicate.values, cell.Writable)
    (limit : ∀ count ∈ plan.limit, count < 2 ^ 64)
    (offset : ∀ count ∈ plan.offset, count < 2 ^ 64) :
    Statement.parse statement.write = .ok statement.signsApart :=
  (planned_statementOfPlan written columns writable limit offset).parse_write

/-- A table whose name has a quote in it. -/
def reviews : Table :=
  ⟨1, 1, "re\"views", none⟩

/-- A field of reviews whose name is a word of the language. -/
def rating : Field :=
  ⟨1, 1, "select", .integer, none, none, none, 0⟩

/-- The reviews that are rated below minus five or whose rating begins with a quote and a percent
sign, by page. -/
def lowReviews : Plan where
  databaseId := 1
  source := reviews
  joins := []
  columns := [.field (.direct rating reviews), .aggregate .sum (some (.direct rating reviews))]
  filter := some (.or
    [.and [.not (.and []), .compare (.direct rating reviews) .less (.int64 (-5))],
      .startsWith (.direct rating reviews) "'%"])
  breakout := [.direct rating reviews]
  orderBy := [⟨.direct rating reviews, .descending⟩]
  limit := some 10
  offset := some 20
  warnings := []

theorem writable_lowReviews :
    ∀ predicate ∈ lowReviews.filter, ∀ cell ∈ predicate.values, cell.Writable := by
  rintro predicate ⟨⟩ cell member
  obtain rfl : cell = .int64 (-5) := by
    simpa [Predicate.values, Predicate.valuesOfEach] using member
  constructor
  · intro value same
    cases same
  · intro value same
    cases same
  · intro value isValue
    cases isValue
    decide

theorem parse_write_lowReviews :
    ∃ statement, statementOfPlan .lowerCase lowReviews = .ok statement ∧
      Statement.parse statement.write = .ok statement.signsApart :=
  ⟨_, rfl, parse_write_statementOfPlan rfl (by decide) writable_lowReviews
    (fun _ isLimit => by cases isLimit; decide) (fun _ isOffset => by cases isOffset; decide)⟩

end Relational

end CrossQuery
