import CrossQuery.Proofs.Dataset.Typed
import CrossQuery.Proofs.Relational.Answers
import CrossQuery.Proofs.Relational.Statements

/-!
# Conditions as they are read

The text of a condition is read with its numbers spelled out anew. What a number is read as is again
a number, so a condition that compares fields with values of their kind has a truth on every row.
-/

set_option autoImplicit false

namespace CrossQuery

namespace Relational

open Select

variable {scope : Scope} {row : List Cell}

section Constants

variable {literal : Literal}

/-- A number without a sign is a number, and so is its opposite. -/
theorem numeric_of_unsigned (isNumber : literal.Unsigned) :
    (cellOfLiteral literal).Numeric ∧
      ∃ opposite, negate (cellOfLiteral literal) = .ok opposite ∧ opposite.Numeric := by
  cases isNumber with
  | @integer number small =>
      have shown :
          (cellOfLiteral (.integer (Int64.ofNat number))).integer? = some (number : Int) := by
        refine congrArg some ?_
        rw [← Int64.ofInt_eq_ofNat]
        exact Int64.toInt_ofInt_of_le (by omega) (by omega)
      have fits : Cell.fitsInt64 (-(number : Int)) = true := by
        simp only [Cell.fitsInt64, Bool.and_eq_true, decide_eq_true_eq]
        omega
      refine ⟨Cell.numeric_of_integer? shown, .int64 (Int64.ofInt (-(number : Int))), ?_,
        Cell.numeric_of_integer? rfl⟩
      rw [cellOfLiteral] at shown ⊢
      rw [negate, shown]
      · exact if_pos fits
      · intro same
        cases same
      · intro other same
        cases same
      · intro other same
        cases same
  | @float value isOrdered _ =>
      exact ⟨⟨value, rfl, isOrdered⟩, .float64 (-value), rfl,
        ⟨-value, rfl, Decimal.isNaN_neg isOrdered⟩⟩

theorem evaluate_signedNumber {spelling : String} (isRead : readNumber spelling = .ok literal)
    (isNumber : literal.Unsigned) (negative : Bool) :
    ∃ cell, scope.evaluate row (signedNumber negative spelling) = .ok cell ∧ cell.Numeric := by
  obtain ⟨numeric, opposite, negated, isOpposite⟩ := numeric_of_unsigned isNumber
  rw [signedNumber, numberOf, isRead]
  cases negative with
  | false => exact ⟨_, rfl, numeric⟩
  | true => exact ⟨opposite, negated, isOpposite⟩

theorem evaluate_reread_integer (value : Int64) :
    ∃ cell, scope.evaluate row (Literal.integer value).reread = .ok cell ∧ cell.Numeric := by
  obtain ⟨literal, isRead, isNumber⟩ := (Numeral.ofNat value.toInt.natAbs).readNumber_ofList
  rw [Numeral.text_ofNat] at isRead
  exact evaluate_signedNumber isRead isNumber _

theorem evaluate_reread_float {value : Float} (isFinite : value.isFinite = true) :
    ∃ cell, scope.evaluate row (Literal.float value).reread = .ok cell ∧ cell.Numeric := by
  obtain ⟨numeral, spelled, -⟩ := exists_numeral_float isFinite
  obtain ⟨literal, isRead, isNumber⟩ := numeral.readNumber_ofList
  rw [← spelled] at isRead
  exact evaluate_signedNumber isRead isNumber _

variable {type : BaseType} {value : Cell}

/-- The constant of a value is read as one of the same kind. -/
theorem evaluate_reread_constant (accepted : type.Accepts value) :
    ∃ cell, scope.evaluate row (constantOfCell value).reread = .ok cell ∧ cell.isNull = false ∧
      ∀ held, type.Keeps held → held.SameKind cell := by
  cases accepted with
  | integer value isNumeric =>
      obtain ⟨cell, evaluated, numeric⟩ := evaluate_reread_integer value
      refine ⟨cell, ?_, numeric.isNull, fun held kept => kept.sameKind_of_numeric isNumeric numeric⟩
      simpa [constantOfCell, Cell.integer?, Expression.reread] using evaluated
  | float isNumeric isFinite =>
      obtain ⟨cell, evaluated, numeric⟩ := evaluate_reread_float isFinite
      exact ⟨cell, evaluated, numeric.isNull,
        fun held kept => kept.sameKind_of_numeric isNumeric numeric⟩
  | text value isText =>
      refine ⟨.text value, rfl, rfl, fun held kept => ?_⟩
      rcases kept.null_or_text isText with rfl | ⟨other, rfl⟩
      · exact .null _
      · exact .text other value
  | boolean value =>
      refine ⟨.bool value, rfl, rfl, fun held kept => ?_⟩
      rcases kept.null_or_boolean with rfl | ⟨other, rfl⟩
      · exact .null _
      · exact .boolean other value
  | date value =>
      refine ⟨.date value, evaluate_constantOfCell (.date value), rfl, fun held kept => ?_⟩
      rcases kept.null_or_date with rfl | ⟨other, rfl⟩
      · exact .null _
      · exact .date other value
  | timestamp value =>
      refine ⟨.timestamp value, evaluate_constantOfCell (.timestamp value), rfl,
        fun held kept => ?_⟩
      rcases kept.null_or_timestamp with rfl | ⟨other, rfl⟩
      · exact .null _
      · exact .timestamp other value

end Constants

/-- An expression that has a truth value on a row. -/
def Judges (scope : Scope) (row : List Cell) (expression : Expression) : Prop :=
  ∃ truth, scope.evaluate row expression = .ok (cellOfTruth truth)

section Judging

variable {left right operand : Expression} {cell : Cell}

theorem Judges.nested (judges : Judges scope row operand) : Judges scope row (.nested operand) :=
  judges

theorem Judges.not (judges : Judges scope row operand) :
    Judges scope row (.unary .not operand) := by
  obtain ⟨truth, evaluated⟩ := judges
  refine ⟨truth.not, ?_⟩
  rw [Scope.evaluate, evaluated, Outcome.ok_bind, operateUnary, truthOfCell_cellOfTruth]
  rfl

theorem Judges.connect {operator : BinaryOperator} (connects : operator.Connects)
    (isLeft : Judges scope row left) (isRight : Judges scope row right) :
    Judges scope row (.binary operator left right) := by
  obtain ⟨first, isFirst⟩ := isLeft
  obtain ⟨second, isSecond⟩ := isRight
  rcases connects with rfl | rfl
  · refine ⟨first.and second, ?_⟩
    rw [Scope.evaluate, isFirst, Outcome.ok_bind, isSecond, Outcome.ok_bind, operate,
      truthOfCell_cellOfTruth, truthOfCell_cellOfTruth]
    rfl
  · refine ⟨first.or second, ?_⟩
    rw [Scope.evaluate, isFirst, Outcome.ok_bind, isSecond, Outcome.ok_bind, operate,
      truthOfCell_cellOfTruth, truthOfCell_cellOfTruth]
    rfl

theorem judges_foldl {naming : Naming} {operator : BinaryOperator} (connects : operator.Connects)
    {clauses : List Predicate} {joined : Expression} (judges : Judges scope row joined.reread)
    (each : ∀ clause ∈ clauses, Judges scope row (condition naming clause).reread) :
    Judges scope row ((conditions naming clauses).foldl
      (fun joined condition => .binary operator joined (.nested condition)) joined).reread := by
  induction clauses generalizing joined with
  | nil => exact judges
  | cons clause rest ih =>
      have first := each clause List.mem_cons_self
      rw [conditions, List.foldl_cons]
      apply ih _ fun other member => each other (List.mem_cons_of_mem _ member)
      rw [Expression.reread, Expression.reread]
      exact .connect connects judges first.nested

theorem judges_joinConditions {naming : Naming} {operator : BinaryOperator}
    (connects : operator.Connects) (constant : Bool) {clauses : List Predicate}
    (each : ∀ clause ∈ clauses, Judges scope row (condition naming clause).reread) :
    Judges scope row (joinConditions operator constant (conditions naming clauses)).reread := by
  cases clauses with
  | nil => exact ⟨.ofBool constant, by cases constant <;> rfl⟩
  | cons clause rest =>
      refine judges_foldl connects ?_ fun other member => each other (List.mem_cons_of_mem _ member)
      rw [Expression.reread]
      exact (each clause List.mem_cons_self).nested

theorem judges_compare {comparison : Comparison} {value : Cell}
    (isLeft : scope.evaluate row left = .ok cell) (isRight : scope.evaluate row right = .ok value)
    (present : value.isNull = false) (kind : cell.SameKind value) :
    Judges scope row (.binary (.compare comparison) left right) := by
  refine ⟨comparison.truth cell value, ?_⟩
  rw [Scope.evaluate, isLeft, Outcome.ok_bind, isRight, Outcome.ok_bind, operate,
    compareTruth_eq kind present]
  rfl

theorem judges_like (isLeft : scope.evaluate row left = .ok cell) (pattern : String) :
    Judges scope row (.binary .like left (.literal (.text pattern))) := by
  have liked : likeTruth cell (.text pattern) =
      .ok (cell.textTruth (Like.holds pattern.toList)) :=
    likeTruth_text cell fun _ => rfl
  refine ⟨cell.textTruth (Like.holds pattern.toList), ?_⟩
  rw [Scope.evaluate, isLeft, Outcome.ok_bind, Scope.evaluate, Outcome.ok_bind, operate,
    cellOfLiteral, liked]
  rfl

end Judging

end Relational

namespace Predicate

/-- A predicate that compares each field with values of its kind. -/
inductive Typed : Predicate → Prop where
  | and {clauses : List Predicate} :
      (∀ clause ∈ clauses, Typed clause) → Typed (.and clauses)
  | or {clauses : List Predicate} :
      (∀ clause ∈ clauses, Typed clause) → Typed (.or clauses)
  | not {clause : Predicate} : Typed clause → Typed (.not clause)
  | compare {field : PlanField} {comparison : Comparison} {value : Cell} :
      field.field.baseType.Accepts value → Typed (.compare field comparison value)
  | between {field : PlanField} {least greatest : Cell} :
      field.field.baseType.Accepts least → field.field.baseType.Accepts greatest →
      Typed (.between field least greatest)
  | isNull {field : PlanField} {negated : Bool} : Typed (.isNull field negated)
  | startsWith {field : PlanField} {text : String} : Typed (.startsWith field text)
  | contains {field : PlanField} {text : String} : Typed (.contains field text)

open Relational Select

variable {predicate : Predicate} {scope : Scope} {naming : Naming} {row : List Cell}

theorem Typed.values_accepted (typed : predicate.Typed) :
    ∀ cell ∈ predicate.values, ∃ type : BaseType, type.Accepts cell := by
  induction typed with
  | and _ ih =>
      intro cell member
      obtain ⟨clause, isClause, compared⟩ := mem_valuesOfEach.mp member
      exact ih clause isClause cell compared
  | or _ ih =>
      intro cell member
      obtain ⟨clause, isClause, compared⟩ := mem_valuesOfEach.mp member
      exact ih clause isClause cell compared
  | not _ ih => exact ih
  | compare accepted =>
      intro cell member
      obtain rfl := List.mem_singleton.mp member
      exact ⟨_, accepted⟩
  | between acceptedLeast acceptedGreatest =>
      intro cell member
      rcases List.mem_cons.mp member with rfl | last
      · exact ⟨_, acceptedLeast⟩
      · obtain rfl := List.mem_singleton.mp last
        exact ⟨_, acceptedGreatest⟩
  | isNull => exact fun cell member => absurd member List.not_mem_nil
  | startsWith => exact fun cell member => absurd member List.not_mem_nil
  | contains => exact fun cell member => absurd member List.not_mem_nil

/-- What the condition of a predicate is read as has a truth on each row that keeps values of the
kinds that the predicate compares. -/
theorem Typed.judges (typed : predicate.Typed)
    (keeps : ∀ field ∈ predicate.fields, ∃ cell,
      scope.evaluate row (columnOfField naming field) = .ok cell ∧
        field.field.baseType.Keeps cell) :
    Judges scope row (condition naming predicate).reread := by
  induction typed with
  | @and clauses _ ih =>
      refine judges_joinConditions (.inl rfl) true fun clause member => ih clause member ?_
      exact fun field tested => keeps field (mem_fieldsOfEach.mpr ⟨clause, member, tested⟩)
  | @or clauses _ ih =>
      refine judges_joinConditions (.inr rfl) false fun clause member => ih clause member ?_
      exact fun field tested => keeps field (mem_fieldsOfEach.mpr ⟨clause, member, tested⟩)
  | not _ ih => exact (ih keeps).nested.not
  | @compare field comparison value accepted =>
      obtain ⟨cell, isCell, kept⟩ := keeps field (List.mem_singleton_self field)
      obtain ⟨other, isOther, present, sameKind⟩ := evaluate_reread_constant accepted
      exact judges_compare isCell isOther present (sameKind cell kept)
  | @between field least greatest acceptedLeast acceptedGreatest =>
      obtain ⟨cell, isCell, kept⟩ := keeps field (List.mem_singleton_self field)
      obtain ⟨low, isLow, lowPresent, lowKind⟩ := evaluate_reread_constant acceptedLeast
      obtain ⟨high, isHigh, highPresent, highKind⟩ := evaluate_reread_constant acceptedGreatest
      refine ⟨(Comparison.greaterOrEqual.truth cell low).and
        (Comparison.lessOrEqual.truth cell high), ?_⟩
      have column : (columnOfField naming field).reread = columnOfField naming field := rfl
      rw [condition, Expression.reread, column, Scope.evaluate, isCell, Outcome.ok_bind, isLow,
        Outcome.ok_bind, isHigh, Outcome.ok_bind, betweenTruth,
        compareTruth_eq (lowKind cell kept) lowPresent, Outcome.ok_bind,
        compareTruth_eq (highKind cell kept) highPresent]
      rfl
  | @isNull field negated =>
      obtain ⟨cell, isCell, _⟩ := keeps field (List.mem_singleton_self field)
      refine ⟨.ofBool (cell.isNull != negated), ?_⟩
      have column : (columnOfField naming field).reread = columnOfField naming field := rfl
      rw [condition, Expression.reread, column, Scope.evaluate, isCell, Outcome.ok_bind]
      cases cell.isNull != negated <;> rfl
  | @startsWith field text =>
      obtain ⟨cell, isCell, _⟩ := keeps field (List.mem_singleton_self field)
      exact judges_like isCell _
  | @contains field text =>
      obtain ⟨cell, isCell, _⟩ := keeps field (List.mem_singleton_self field)
      exact judges_like isCell _

end Predicate

end CrossQuery
