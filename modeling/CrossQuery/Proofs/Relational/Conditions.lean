import CrossQuery.Proofs.Calendar.RoundTrip
import CrossQuery.Proofs.Outcome
import CrossQuery.Proofs.Pattern.Like
import CrossQuery.Proofs.Predicate.Judgement
import CrossQuery.Relational.Evaluation
import CrossQuery.Relational.Selection

/-!
# Conditions on rows

The condition of a predicate is evaluated to the truth of the predicate on the record that a row
holds. Constants stand for their cells, dates and timestamps by way of their texts.
-/

set_option autoImplicit false

namespace CrossQuery

namespace Truth

theorem and_assoc (first second third : Truth) :
    (first.and second).and third = first.and (second.and third) := by
  cases first <;> cases second <;> cases third <;> rfl

theorem or_assoc (first second third : Truth) :
    (first.or second).or third = first.or (second.or third) := by
  cases first <;> cases second <;> cases third <;> rfl

@[simp] theorem and_yes (truth : Truth) : truth.and .yes = truth := by
  cases truth <;> rfl

@[simp] theorem or_no (truth : Truth) : truth.or .no = truth := by
  cases truth <;> rfl

end Truth

/-- A value that a constant of a statement stands for as it is. -/
inductive Cell.Scalar : Cell → Prop where
  | boolean (value : Bool) : Scalar (.bool value)
  | integer (value : Int64) : Scalar (.int64 value)
  | float (value : Float) : Scalar (.float64 value)
  | text (value : String) : Scalar (.text value)
  | date (value : Date) : Scalar (.date value)
  | timestamp (value : Timestamp) : Scalar (.timestamp value)

namespace Relational

open Select

variable {scope : Scope} {row : List Cell}

theorem Scope.evaluateAll_eq_mapM (expressions : List Expression) :
    scope.evaluateAll row expressions = expressions.mapM (scope.evaluate row) := by
  induction expressions with
  | nil => rfl
  | cons first rest ih => rw [List.mapM_cons, evaluateAll, ih]

theorem Scalar.isNull {value : Cell} (scalar : value.Scalar) : value.isNull = false := by
  cases scalar <;> rfl

@[simp] theorem truthOfCell_cellOfTruth (truth : Truth) :
    truthOfCell (cellOfTruth truth) = .ok truth := by
  cases truth <;> rfl

/-- A constant is evaluated to the cell that it was made of. -/
theorem evaluate_constantOfCell {value : Cell} (scalar : value.Scalar) :
    scope.evaluate row (constantOfCell value) = .ok value := by
  cases scalar with
  | boolean value => rfl
  | integer value =>
      simp [constantOfCell, Cell.integer?, Scope.evaluate, cellOfLiteral]
  | float value => rfl
  | text value => rfl
  | date value =>
      have isRead := Calendar.readDate?_write value
      simp [constantOfCell, Scope.evaluate, cellOfLiteral, Cell.display, convert, Cell.isNull,
        toDate, Cell.text?, isRead]
  | timestamp value =>
      have isRead := Calendar.readTimestamp?_write value
      simp [constantOfCell, Scope.evaluate, cellOfLiteral, Cell.display, convert, Cell.isNull,
        toTimestamp, Cell.text?, isRead]

theorem compareTruth_eq {cell value : Cell} (kind : cell.SameKind value)
    (present : value.isNull = false) (comparison : Comparison) :
    compareTruth comparison cell value = .ok (comparison.truth cell value) := by
  unfold compareTruth Comparison.truth
  cases isNull : cell.isNull with
  | true => simp [Cell.isNull_eq_true_iff.mp isNull]
  | false =>
      obtain ⟨ordering, found⟩ := Option.isSome_iff_exists.mp (kind.compare_isSome isNull)
      simp [present, kind.compareCells_eq, found]

theorem likeTruth_text (cell : Cell) {like : String} {test : List Char → Bool}
    (agrees : ∀ text, Like.holds like.toList text = test text) :
    likeTruth cell (.text like) = .ok (cell.textTruth test) := by
  unfold likeTruth Cell.textTruth
  cases cell.isNull <;> simp [Cell.isNull, Cell.text?, agrees]

theorem holds_escapeLike_startsWith (value : String) (text : List Char) :
    Like.holds (escapeLike value ++ "%").toList text = value.toList.isPrefixOf text := by
  have spelled : (escapeLike value ++ "%").toList = escapeLikeChars value.toList ++ ['%'] := by
    simp [escapeLike]
  rw [spelled, Like.holds_startsWith]

theorem holds_escapeLike_contains (value : String) (text : List Char) :
    Like.holds ("%" ++ escapeLike value ++ "%").toList text =
      Text.occurs value.toList text := by
  have spelled : ("%" ++ escapeLike value ++ "%").toList =
      '%' :: (escapeLikeChars value.toList ++ ['%']) := by
    simp [escapeLike]
  rw [spelled, Like.holds_contains]

section Evaluation

variable {naming : Naming} {value : PlanField → Cell}

/-- Conditions joined one behind the other are the conjunction of what they are evaluated to. -/
theorem evaluate_foldl_and {clauses : List Predicate} {joined : Expression} {truth : Truth}
    (evaluated : scope.evaluate row joined = .ok (cellOfTruth truth))
    (each : ∀ clause ∈ clauses,
      scope.evaluate row (condition naming clause) = .ok (cellOfTruth (clause.truth value))) :
    scope.evaluate row ((conditions naming clauses).foldl
        (fun joined condition => .binary .and joined (.nested condition)) joined) =
      .ok (cellOfTruth (truth.and (Predicate.truthOfAll value clauses))) := by
  induction clauses generalizing joined truth with
  | nil => simpa [conditions, Predicate.truthOfAll] using evaluated
  | cons clause rest ih =>
      have first := each clause List.mem_cons_self
      rw [conditions, List.foldl_cons, Predicate.truthOfAll, ← Truth.and_assoc]
      apply ih _ fun other member => each other (List.mem_cons_of_mem _ member)
      simp [Scope.evaluate, evaluated, first, operate]

theorem evaluate_foldl_or {clauses : List Predicate} {joined : Expression} {truth : Truth}
    (evaluated : scope.evaluate row joined = .ok (cellOfTruth truth))
    (each : ∀ clause ∈ clauses,
      scope.evaluate row (condition naming clause) = .ok (cellOfTruth (clause.truth value))) :
    scope.evaluate row ((conditions naming clauses).foldl
        (fun joined condition => .binary .or joined (.nested condition)) joined) =
      .ok (cellOfTruth (truth.or (Predicate.truthOfAny value clauses))) := by
  induction clauses generalizing joined truth with
  | nil => simpa [conditions, Predicate.truthOfAny] using evaluated
  | cons clause rest ih =>
      have first := each clause List.mem_cons_self
      rw [conditions, List.foldl_cons, Predicate.truthOfAny, ← Truth.or_assoc]
      apply ih _ fun other member => each other (List.mem_cons_of_mem _ member)
      simp [Scope.evaluate, evaluated, first, operate]

/-- The condition of a predicate is evaluated to the truth of the predicate. -/
theorem evaluate_condition {predicate : Predicate} (kinds : predicate.Comparable value)
    (scalars : ∀ cell ∈ predicate.values, cell.Scalar)
    (reads : ∀ field ∈ predicate.fields,
      scope.evaluate row (columnOfField naming field) = .ok (value field)) :
    scope.evaluate row (condition naming predicate) =
      .ok (cellOfTruth (predicate.truth value)) := by
  induction kinds with
  | @and clauses _ ih =>
      have each : ∀ clause ∈ clauses,
          scope.evaluate row (condition naming clause) =
            .ok (cellOfTruth (clause.truth value)) := by
        intro clause member
        apply ih clause member
        · exact fun cell compared =>
            scalars cell (Predicate.mem_valuesOfEach.mpr ⟨clause, member, compared⟩)
        · exact fun field tested =>
            reads field (Predicate.mem_fieldsOfEach.mpr ⟨clause, member, tested⟩)
      cases clauses with
      | nil => rfl
      | cons clause rest =>
          have first := each clause List.mem_cons_self
          exact evaluate_foldl_and (by simpa [Scope.evaluate] using first)
            fun other member => each other (List.mem_cons_of_mem _ member)
  | @or clauses _ ih =>
      have each : ∀ clause ∈ clauses,
          scope.evaluate row (condition naming clause) =
            .ok (cellOfTruth (clause.truth value)) := by
        intro clause member
        apply ih clause member
        · exact fun cell compared =>
            scalars cell (Predicate.mem_valuesOfEach.mpr ⟨clause, member, compared⟩)
        · exact fun field tested =>
            reads field (Predicate.mem_fieldsOfEach.mpr ⟨clause, member, tested⟩)
      cases clauses with
      | nil => rfl
      | cons clause rest =>
          have first := each clause List.mem_cons_self
          exact evaluate_foldl_or (by simpa [Scope.evaluate] using first)
            fun other member => each other (List.mem_cons_of_mem _ member)
  | @not clause _ ih =>
      simp [condition, Scope.evaluate, ih scalars reads, operateUnary, Predicate.truth]
  | @compare field comparison cell kind =>
      have scalar := scalars cell (by simp [Predicate.values])
      have read := reads field (by simp [Predicate.fields])
      simp [condition, Scope.evaluate, read, evaluate_constantOfCell scalar, operate,
        compareTruth_eq kind (Scalar.isNull scalar), Predicate.truth]
  | @between field least greatest leastKind greatestKind =>
      have leastScalar := scalars least (by simp [Predicate.values])
      have greatestScalar := scalars greatest (by simp [Predicate.values])
      have read := reads field (by simp [Predicate.fields])
      simp [condition, Scope.evaluate, read, evaluate_constantOfCell leastScalar,
        evaluate_constantOfCell greatestScalar, betweenTruth,
        compareTruth_eq leastKind (Scalar.isNull leastScalar),
        compareTruth_eq greatestKind (Scalar.isNull greatestScalar), Predicate.truth]
  | @isNull field negated =>
      have read := reads field (by simp [Predicate.fields])
      simp only [condition, Scope.evaluate, read, Outcome.ok_bind, Predicate.truth]
      cases (value field).isNull != negated <;> rfl
  | @startsWith field text =>
      have read := reads field (by simp [Predicate.fields])
      simp [condition, Scope.evaluate, read, cellOfLiteral, operate, Predicate.truth,
        likeTruth_text (value field) (holds_escapeLike_startsWith text)]
  | @contains field text =>
      have read := reads field (by simp [Predicate.fields])
      simp [condition, Scope.evaluate, read, cellOfLiteral, operate, Predicate.truth,
        likeTruth_text (value field) (holds_escapeLike_contains text)]

theorem truth_condition {predicate : Predicate} (kinds : predicate.Comparable value)
    (scalars : ∀ cell ∈ predicate.values, cell.Scalar)
    (reads : ∀ field ∈ predicate.fields,
      scope.evaluate row (columnOfField naming field) = .ok (value field)) :
    scope.truth (condition naming predicate) row = .ok (predicate.truth value) := by
  rw [Scope.truth, evaluate_condition kinds scalars reads, Outcome.ok_bind,
    truthOfCell_cellOfTruth]

end Evaluation

end Relational

end CrossQuery
