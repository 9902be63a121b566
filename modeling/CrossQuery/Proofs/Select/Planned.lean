import CrossQuery.Proofs.Select.RoundTrip

/-!
# Statements that plans are written as

The statements that plans are written as have few shapes, all of which are read back. If their
constants have opposites and are no floats, only the signs of the negative ones are read apart.
-/

set_option autoImplicit false

namespace CrossQuery.Select

open Token Grammar

/-- The types that texts are converted to. -/
def momentTypes : List String :=
  ["DATE", "TIMESTAMP"]

/-- The types that aggregates are converted to. -/
def aggregateTypes : List String :=
  ["BIGINT", "DOUBLE PRECISION"]

/-- Whether an operator joins conditions. -/
def BinaryOperator.Connects (operator : BinaryOperator) : Prop :=
  operator = .and ∨ operator = .or

/-- A constant that its text keeps, but for the sign: no float, and no integer without an
opposite. -/
def Literal.Exact : Literal → Prop
  | .integer value => value ≠ Int64.minValue
  | .float _ => False
  | _ => True

namespace Expression

/-- A column or a constant, as it stands beside an operator. Numbers are among those that fit, and
floats are finite. -/
inductive Operand (fits : Literal → Prop) : Expression → Prop where
  | column {table name : String} : Operand fits (.column (some table) name)
  | null : Operand fits (.literal .null)
  | boolean {value : Bool} : Operand fits (.literal (.boolean value))
  | integer {value : Int64} : fits (.integer value) → Operand fits (.literal (.integer value))
  | float {value : Float} :
      fits (.float value) → value.isFinite = true → Operand fits (.literal (.float value))
  | text {value : String} : Operand fits (.literal (.text value))
  | moment {value type : String} :
      type ∈ momentTypes → Operand fits (.cast (.literal (.text value)) type)

/-- Conditions in parentheses behind a first one, joined by an operator from the left. -/
def chain (operator : BinaryOperator) (first : Expression) (rest : List Expression) : Expression :=
  rest.foldl (fun joined condition => .binary operator joined (.nested condition)) first

/-- A condition whose every part that is a condition stands in parentheses. -/
inductive Condition (fits : Literal → Prop) : Expression → Prop where
  | constant {value : Bool} : Condition fits (.literal (.boolean value))
  | chain {operator : BinaryOperator} {first : Expression} {rest : List Expression} :
      operator.Connects → Condition fits first → (∀ condition ∈ rest, Condition fits condition) →
      Condition fits (.chain operator (.nested first) rest)
  | not {condition : Expression} :
      Condition fits condition → Condition fits (.unary .not (.nested condition))
  | compare {comparison : Comparison} {table name : String} {right : Expression} :
      Operand fits right →
      Condition fits (.binary (.compare comparison) (.column (some table) name) right)
  | between {table name : String} {least greatest : Expression} :
      Operand fits least → Operand fits greatest →
      Condition fits (.between (.column (some table) name) least greatest false)
  | isNull {table name : String} {negated : Bool} :
      Condition fits (.isNull (.column (some table) name) negated)
  | like {table name pattern : String} :
      Condition fits (.binary .like (.column (some table) name) (.literal (.text pattern)))

/-- A column or an aggregate of one. -/
inductive Projected : Expression → Prop where
  | column {table name : String} : Projected (.column (some table) name)
  | count : Projected (.aggregate "COUNT" [.wildcard] false)
  | distinct {table name : String} :
      Projected (.aggregate "COUNT" [.column (some table) name] true)
  | converted {aggregate table name type : String} :
      aggregate ∈ ["SUM", "AVG"] → type ∈ aggregateTypes →
      Projected (.cast (.aggregate aggregate [.column (some table) name] false) type)

/-- Whether an expression is a column with its table. -/
def IsColumn (expression : Expression) : Prop :=
  ∃ table name, expression = .column (some table) name

end Expression

/-- A statement that projects something and whose expressions have the shapes that plans give
them. -/
structure Statement.Planned (fits : Literal → Prop) (statement : Statement) : Prop where
  projects : statement.projections ≠ []
  projected : ∀ projection ∈ statement.projections, projection.expression.Projected
  joined : ∀ join ∈ statement.joins, join.condition.Condition fits
  filtered : ∀ condition ∈ statement.filter, condition.Condition fits
  grouped : ∀ key ∈ statement.groupBy, key.IsColumn
  ordered : ∀ key ∈ statement.orderBy, key.expression.IsColumn
  limited : ∀ count ∈ statement.limit, count < 2 ^ 64
  skipped : ∀ count ∈ statement.offset, count < 2 ^ 64

/-! ## Their texts are read -/

theorem readsType_planned {type : String} (isType : type ∈ momentTypes ++ aggregateTypes) :
    ReadsType type := by
  have all : momentTypes ++ aggregateTypes ⊆ convertedTypes := by decide
  exact readsType_of_converted (all isType)

namespace Expression

variable {fits : Literal → Prop}

theorem Operand.binds {operand : Expression} (isOperand : Operand fits operand) (bound : Nat) :
    operand.Binds bound := by
  cases isOperand with
  | column => exact .column
  | moment => exact .cast .literal
  | _ => exact .literal

theorem Operand.writable {operand : Expression} (isOperand : Operand fits operand) :
    operand.Writable := by
  cases isOperand with
  | float _ isFinite => exact isFinite
  | moment isType => exact ⟨trivial, readsType_planned (List.mem_append_left _ isType)⟩
  | _ => trivial

theorem binds_chain {operator : BinaryOperator} (connects : operator.Connects)
    {rest : List Expression} (all : ∀ condition ∈ rest, condition.Binds 0) {first : Expression}
    (binds : first.Binds 0) (apart : operator.precedence ≤ first.edge) :
    (chain operator first rest).Binds 0 := by
  induction rest generalizing first with
  | nil => exact binds
  | cons condition rest ih =>
      have isNested : (nested condition).Binds operator.precedence :=
        .nested (all condition List.mem_cons_self)
      refine ih (fun other member => all other (List.mem_cons_of_mem _ member)) ?_ ?_
      · rcases connects with rfl | rfl <;> exact .binary (by decide) binds apart isNested
      · rcases connects with rfl | rfl <;> exact Nat.le_of_ble_eq_true rfl

theorem Condition.binds {condition : Expression} (isCondition : Condition fits condition) :
    condition.Binds 0 := by
  induction isCondition with
  | constant => exact .literal
  | @chain operator _ _ connects _ _ firstIH restIH =>
      have below : operator.precedence ≤ 140 :=
        Nat.le_trans operator.precedence_le (by decide)
      exact binds_chain connects restIH (.nested firstIH) below
  | not _ ih => exact .not (.nested ih)
  | compare isRight =>
      exact .binary (show 0 < 50 by decide) .column (show 50 ≤ 140 by decide) (isRight.binds 50)
  | between isLeast isGreatest =>
      exact .between (by decide) .column (show 60 ≤ 140 by decide) (isLeast.binds 60)
        (isGreatest.binds 60)
  | isNull => exact .isNull (by decide) .column (show 40 ≤ 140 by decide)
  | like => exact .binary (by decide) .column (show 60 ≤ 140 by decide) .literal

theorem writable_chain {operator : BinaryOperator} {rest : List Expression}
    (all : ∀ condition ∈ rest, condition.Writable) {first : Expression}
    (writable : first.Writable) : (chain operator first rest).Writable := by
  induction rest generalizing first with
  | nil => exact writable
  | cons condition rest ih =>
      refine ih (fun other member => all other (List.mem_cons_of_mem _ member)) ?_
      exact ⟨writable, all condition List.mem_cons_self⟩

theorem Condition.writable {condition : Expression} (isCondition : Condition fits condition) :
    condition.Writable := by
  induction isCondition with
  | chain _ _ _ firstIH restIH => exact writable_chain restIH firstIH
  | not _ ih => exact ih
  | compare isRight => exact ⟨trivial, isRight.writable⟩
  | between isLeast isGreatest => exact ⟨trivial, isLeast.writable, isGreatest.writable⟩
  | like => exact ⟨trivial, trivial⟩
  | _ => trivial

theorem mem_aggregateNames_of_converted {aggregate : String} (isAggregate : aggregate ∈ ["SUM", "AVG"]) :
    aggregate ∈ aggregateNames := by
  have all : ∀ name ∈ ["SUM", "AVG"], name ∈ aggregateNames := by decide
  exact all aggregate isAggregate

theorem Projected.binds {expression : Expression} (isProjected : Projected expression) :
    expression.Binds 0 := by
  cases isProjected with
  | column => exact .column
  | count => exact .count
  | distinct => exact .aggregate (by decide) .column
  | converted isAggregate =>
      exact .cast (.aggregate (mem_aggregateNames_of_converted isAggregate) .column)

theorem Projected.writable {expression : Expression} (isProjected : Projected expression) :
    expression.Writable := by
  cases isProjected with
  | converted _ isType =>
      exact ⟨⟨trivial, trivial⟩, readsType_planned (List.mem_append_right _ isType)⟩
  | column => trivial
  | _ => exact ⟨trivial, trivial⟩

end Expression

namespace Statement.Planned

variable {fits : Literal → Prop} {statement : Statement}

theorem shaped (planned : statement.Planned fits) : statement.Shaped := by
  refine ⟨planned.projects, fun expression member => ?_, planned.limited, planned.skipped⟩
  rcases cases_expressions member with ⟨projection, listed, rfl⟩ | ⟨join, listed, rfl⟩ | isFilter |
    isKey | ⟨key, listed, rfl⟩
  · exact (planned.projected projection listed).binds
  · exact (planned.joined join listed).binds
  · exact (planned.filtered expression isFilter).binds
  · obtain ⟨table, name, rfl⟩ := planned.grouped expression isKey
    exact .column
  · obtain ⟨table, name, same⟩ := planned.ordered key listed
    rw [same]
    exact .column

theorem writable (planned : statement.Planned fits) : statement.Writable := by
  intro expression member
  rcases cases_expressions member with ⟨projection, listed, rfl⟩ | ⟨join, listed, rfl⟩ | isFilter |
    isKey | ⟨key, listed, rfl⟩
  · exact (planned.projected projection listed).writable
  · exact (planned.joined join listed).writable
  · exact (planned.filtered expression isFilter).writable
  · obtain ⟨table, name, rfl⟩ := planned.grouped expression isKey
    trivial
  · obtain ⟨table, name, same⟩ := planned.ordered key listed
    rw [same]
    trivial

/-- The text of a statement is read as the statement with its numbers as they are read. -/
theorem parse_write_reread (planned : statement.Planned fits) :
    Statement.parse statement.write = .ok statement.reread :=
  planned.shaped.parse_write_reread planned.writable

end Statement.Planned

/-! ## Constants that their texts keep -/

namespace Expression

theorem Operand.reread_eq {operand : Expression} (isOperand : Operand Literal.Exact operand) :
    operand.reread = operand.signsApart := by
  cases isOperand with
  | column => rfl
  | null => rfl
  | boolean => rfl
  | @integer value exact =>
      have read := readTree_tree_integer value
      exact Except.ok.inj (read.symm.trans (readTree_integer exact))
  | float exact => exact exact.elim
  | text => rfl
  | moment => rfl

theorem reread_chain_eq {operator : BinaryOperator} {rest : List Expression}
    (all : ∀ condition ∈ rest, condition.reread = condition.signsApart) {first : Expression}
    (same : first.reread = first.signsApart) :
    (chain operator first rest).reread = (chain operator first rest).signsApart := by
  induction rest generalizing first with
  | nil => exact same
  | cons condition rest ih =>
      refine ih (fun other member => all other (List.mem_cons_of_mem _ member)) ?_
      rw [reread, reread, signsApart, signsApart, same, all condition List.mem_cons_self]

theorem Condition.reread_eq {condition : Expression}
    (isCondition : Condition Literal.Exact condition) :
    condition.reread = condition.signsApart := by
  induction isCondition with
  | constant => rfl
  | chain _ _ _ firstIH restIH =>
      refine reread_chain_eq restIH ?_
      rw [reread, signsApart, firstIH]
  | not _ ih => rw [reread, reread, signsApart, signsApart, ih]
  | compare isRight => rw [reread, signsApart, isRight.reread_eq, reread, signsApart]
  | between isLeast isGreatest =>
      rw [reread, signsApart, isLeast.reread_eq, isGreatest.reread_eq, reread, signsApart]
  | isNull => rfl
  | like => rfl

theorem Projected.reread_eq {expression : Expression} (isProjected : Projected expression) :
    expression.reread = expression ∧ expression.signsApart = expression := by
  cases isProjected <;> exact ⟨rfl, rfl⟩

theorem IsColumn.reread_eq {expression : Expression} (isColumn : expression.IsColumn) :
    expression.reread = expression ∧ expression.signsApart = expression := by
  obtain ⟨table, name, rfl⟩ := isColumn
  exact ⟨rfl, rfl⟩

end Expression

/-- A statement whose constants are exact is read with their signs apart. -/
theorem Statement.Planned.reread_eq {statement : Statement}
    (planned : statement.Planned Literal.Exact) : statement.reread = statement.signsApart := by
  have projections : statement.reread.projections = statement.signsApart.projections := by
    refine List.map_congr_left fun projection member => ?_
    obtain ⟨same, sameApart⟩ := (planned.projected projection member).reread_eq
    rw [same, sameApart]
  have joins : statement.reread.joins = statement.signsApart.joins := by
    refine List.map_congr_left fun join member => ?_
    rw [(planned.joined join member).reread_eq]
  have filter : statement.reread.filter = statement.signsApart.filter := by
    refine Option.map_congr fun condition isFilter => ?_
    exact (planned.filtered condition isFilter).reread_eq
  have groups : statement.reread.groupBy = statement.signsApart.groupBy := by
    refine List.map_congr_left fun key member => ?_
    obtain ⟨same, sameApart⟩ := (planned.grouped key member).reread_eq
    rw [same, sameApart]
  have order : statement.reread.orderBy = statement.signsApart.orderBy := by
    refine List.map_congr_left fun key member => ?_
    obtain ⟨same, sameApart⟩ := (planned.ordered key member).reread_eq
    rw [same, sameApart]
  rw [reread, signsApart, Statement.mk.injEq]
  exact ⟨projections, rfl, joins, filter, groups, order, rfl, rfl⟩


/-- The text of a statement whose constants are exact is read as the statement, with every negative
integer as its opposite behind a minus sign. -/
theorem Statement.Planned.parse_write {statement : Statement}
    (planned : statement.Planned Literal.Exact) :
    Statement.parse statement.write = .ok statement.signsApart := by
  rw [planned.parse_write_reread, planned.reread_eq]

end CrossQuery.Select
