import CrossQuery.Proofs.Predicate.Stored

/-!
# The truth of predicates by rules

What a predicate amounts to on a record, one rule for each form and each kind of cells. On records
that hold values of the kinds they are compared with, the rules give every predicate one truth
value, the one that it is computed to have.
-/

set_option autoImplicit false

namespace CrossQuery

/-- The truth of a test that has an answer. -/
inductive Truth.Answers (test : Prop) : Truth → Prop where
  | yes : test → Answers test .yes
  | no : ¬test → Answers test .no

theorem Truth.Answers.eq_ofBool {test : Prop} {truth : Truth} {answer : Bool}
    (answers : Answers test truth) (decides : answer = true ↔ test) : truth = .ofBool answer := by
  cases answers with
  | yes holds =>
      rw [decides.mpr holds]
      rfl
  | no fails =>
      rw [Bool.eq_false_iff.mpr (mt decides.mp fails)]
      rfl

theorem Truth.answers_ofBool {test : Prop} {answer : Bool} (decides : answer = true ↔ test) :
    Answers test (.ofBool answer) := by
  cases answer with
  | true => exact .yes (decides.mp rfl)
  | false => exact .no fun holds => Bool.false_ne_true (decides.mpr holds)

/-- The orderings of a field against a value on which a comparison is true. -/
inductive Comparison.Allows : Comparison → Ordering → Prop where
  | equal : Allows .equal .eq
  | notEqual_less : Allows .notEqual .lt
  | notEqual_greater : Allows .notEqual .gt
  | less : Allows .less .lt
  | lessOrEqual_less : Allows .lessOrEqual .lt
  | lessOrEqual_equal : Allows .lessOrEqual .eq
  | greater : Allows .greater .gt
  | greaterOrEqual_greater : Allows .greaterOrEqual .gt
  | greaterOrEqual_equal : Allows .greaterOrEqual .eq

theorem Comparison.admits_eq_true_iff {comparison : Comparison} {ordering : Ordering} :
    Relational.admits comparison ordering = true ↔ comparison.Allows ordering := by
  constructor
  · intro admitted
    cases comparison <;> cases ordering <;> first | constructor | cases admitted
  · intro allows
    cases allows <;> rfl

namespace Cell

/-- The order of two cells of one kind. Integers of all widths are of one kind. A float stands
against an integer as it does against the nearest float. -/
inductive Ordered : Cell → Cell → Ordering → Prop where
  | integer {left right : Cell} {value other : Int} :
      left.integer? = some value → right.integer? = some other →
      Ordered left right (Ord.compare value other)
  | float {left right : Cell} {value : Float} {other : Int} {ordering : Ordering} :
      left.integer? = none → left.number? = some value → right.integer? = some other →
      compareFloats value (Float.ofInt other) = some ordering → Ordered left right ordering
  | boolean (left right : Bool) : Ordered (.bool left) (.bool right) (Ord.compare left right)
  | text (left right : String) : Ordered (.text left) (.text right) (Ord.compare left right)
  | date (left right : Date) : Ordered (.date left) (.date right) (left.compare right)
  | timestamp (left right : Timestamp) :
      Ordered (.timestamp left) (.timestamp right) (left.compare right)

/-- The text of a cell: its own, or else the one that shows it. -/
inductive HasText : Cell → String → Prop where
  | text (value : String) : HasText (.text value) value
  | unknown (value : String) : HasText (.unknown value) value
  | shown {cell : Cell} : cell ≠ .null → cell.text? = none → HasText cell cell.display

/-- A value that fields are compared with, other than a float. -/
inductive Comparand : Cell → Prop where
  | boolean (value : Bool) : Comparand (.bool value)
  | integer (value : Int64) : Comparand (.int64 value)
  | text (value : String) : Comparand (.text value)
  | date (value : Date) : Comparand (.date value)
  | timestamp (value : Timestamp) : Comparand (.timestamp value)

theorem compare_of_float {left right : Cell} {value : Float} {other : Int}
    (notInteger : left.integer? = none) (isLeft : left.number? = some value)
    (isRight : right.integer? = some other) :
    left.compare right = compareFloats value (Float.ofInt other) := by
  have present : left.isNull = false := by
    cases left with
    | null => cases isLeft
    | _ => rfl
  simp [compare, present, isNull_of_integer? isRight, notInteger, isLeft,
    number?_of_integer? isRight]

theorem Ordered.compare_eq {left right : Cell} {ordering : Ordering}
    (ordered : left.Ordered right ordering) : left.compare right = some ordering := by
  cases ordered with
  | integer isLeft isRight => exact compare_of_integers isLeft isRight
  | float notInteger isLeft isRight found =>
      exact (compare_of_float notInteger isLeft isRight).trans found
  | boolean => rfl
  | text => rfl
  | date => rfl
  | timestamp => rfl

theorem Ordered.compareCells_eq {left right : Cell} {ordering : Ordering}
    (ordered : left.Ordered right ordering) :
    Relational.compareCells left right = some ordering := by
  simp [Relational.compareCells, ordered.compare_eq]

theorem HasText.ne_null {cell : Cell} {shown : String} (hasText : cell.HasText shown) :
    cell ≠ .null := by
  cases hasText with
  | text | unknown => exact nofun
  | shown present => exact present

theorem HasText.textOf_eq {cell : Cell} {shown : String} (hasText : cell.HasText shown) :
    Relational.textOf cell = shown := by
  cases hasText with
  | text | unknown => rfl
  | shown _ notText => rw [Relational.textOf, notText, Option.getD_none]

theorem hasText_of_present {cell : Cell} (present : cell ≠ .null) :
    cell.HasText (Relational.textOf cell) := by
  cases cell with
  | text value => exact .text value
  | unknown value => exact .unknown value
  | _ => exact .shown present rfl

/-- Cells of one kind are ordered, unless the first is null. -/
theorem SameKind.ordered {cell value : Cell} (kind : cell.SameKind value)
    (comparand : value.Comparand) (present : cell ≠ .null) :
    ∃ ordering, cell.Ordered value ordering := by
  cases kind with
  | null => exact absurd rfl present
  | boolean left right => exact ⟨_, .boolean left right⟩
  | text left right => exact ⟨_, .text left right⟩
  | date left right => exact ⟨_, .date left right⟩
  | timestamp left right => exact ⟨_, .timestamp left right⟩
  | number isNumber isOrdered =>
      have otherNumber := number?_isSome_of_compare isNumber isOrdered
      cases comparand with
      | integer other =>
          have isOther : (Cell.int64 other).integer? = some other.toInt := rfl
          cases isInteger : cell.integer? with
          | some value => exact ⟨_, .integer isInteger isOther⟩
          | none =>
              obtain ⟨value, isValue⟩ := Option.isSome_iff_exists.mp isNumber
              rw [compare_of_float isInteger isValue isOther] at isOrdered
              obtain ⟨ordering, found⟩ := Option.isSome_iff_exists.mp isOrdered
              exact ⟨ordering, .float isInteger isValue isOther found⟩
      | _ => cases otherNumber

end Cell

namespace Predicate

variable {value : PlanField → Cell}

/-- A predicate whose comparisons are with values of the kind that the field holds. -/
inductive Comparable (value : PlanField → Cell) : Predicate → Prop where
  | and {clauses} : (∀ clause ∈ clauses, Comparable value clause) → Comparable value (.and clauses)
  | or {clauses} : (∀ clause ∈ clauses, Comparable value clause) → Comparable value (.or clauses)
  | not {clause} : Comparable value clause → Comparable value (.not clause)
  | compare {field comparison cell} :
      (value field).SameKind cell → Comparable value (.compare field comparison cell)
  | between {field least greatest} :
      (value field).SameKind least → (value field).SameKind greatest →
      Comparable value (.between field least greatest)
  | isNull {field negated} : Comparable value (.isNull field negated)
  | startsWith {field text} : Comparable value (.startsWith field text)
  | contains {field text} : Comparable value (.contains field text)

theorem WellKinded.comparable {predicate : Predicate} (kinds : predicate.WellKinded value) :
    predicate.Comparable value := by
  induction kinds with
  | and _ ih => exact .and ih
  | or _ ih => exact .or ih
  | not _ ih => exact .not ih
  | compare kind => exact .compare kind
  | between leastKind greatestKind => exact .between leastKind greatestKind
  | isNull => exact .isNull
  | startsWith => exact .startsWith
  | contains => exact .contains

/-- The truth of a predicate on a record, rule by rule. What is tested on a null is unknown, other
than whether it is one. -/
inductive HasTruth (value : PlanField → Cell) : Predicate → Truth → Prop where
  | and_yes {clauses} :
      (∀ clause ∈ clauses, HasTruth value clause .yes) → HasTruth value (.and clauses) .yes
  | and_no {clauses clause} :
      clause ∈ clauses → HasTruth value clause .no → HasTruth value (.and clauses) .no
  -- One clause is unknown, and no clause is false, which would decide the conjunction.
  | and_unknown {clauses clause} {truthOf : Predicate → Truth} :
      (∀ other ∈ clauses, HasTruth value other (truthOf other)) →
      (∀ other ∈ clauses, truthOf other ≠ .no) →
      clause ∈ clauses → truthOf clause = .unknown → HasTruth value (.and clauses) .unknown
  | or_yes {clauses clause} :
      clause ∈ clauses → HasTruth value clause .yes → HasTruth value (.or clauses) .yes
  | or_no {clauses} :
      (∀ clause ∈ clauses, HasTruth value clause .no) → HasTruth value (.or clauses) .no
  | or_unknown {clauses clause} {truthOf : Predicate → Truth} :
      (∀ other ∈ clauses, HasTruth value other (truthOf other)) →
      (∀ other ∈ clauses, truthOf other ≠ .yes) →
      clause ∈ clauses → truthOf clause = .unknown → HasTruth value (.or clauses) .unknown
  | not_yes {clause} : HasTruth value clause .no → HasTruth value (.not clause) .yes
  | not_no {clause} : HasTruth value clause .yes → HasTruth value (.not clause) .no
  | not_unknown {clause} : HasTruth value clause .unknown → HasTruth value (.not clause) .unknown
  | compare_null {field comparison cell} :
      value field = .null → HasTruth value (.compare field comparison cell) .unknown
  | compare {field comparison cell ordering truth} :
      (value field).Ordered cell ordering → Truth.Answers (comparison.Allows ordering) truth →
      HasTruth value (.compare field comparison cell) truth
  | between_null {field least greatest} :
      value field = .null → HasTruth value (.between field least greatest) .unknown
  | between {field least greatest fromLeast toGreatest truth} :
      (value field).Ordered least fromLeast → (value field).Ordered greatest toGreatest →
      Truth.Answers (fromLeast ≠ .lt ∧ toGreatest ≠ .gt) truth →
      HasTruth value (.between field least greatest) truth
  | isNull {field truth} :
      Truth.Answers (value field = .null) truth → HasTruth value (.isNull field false) truth
  | notNull {field truth} :
      Truth.Answers (value field ≠ .null) truth → HasTruth value (.isNull field true) truth
  | startsWith_null {field text} :
      value field = .null → HasTruth value (.startsWith field text) .unknown
  | startsWith {field text shown truth} :
      (value field).HasText shown → Truth.Answers (text.toList <+: shown.toList) truth →
      HasTruth value (.startsWith field text) truth
  | contains_null {field text} :
      value field = .null → HasTruth value (.contains field text) .unknown
  | contains {field text shown truth} :
      (value field).HasText shown → Truth.Answers (text.toList <:+: shown.toList) truth →
      HasTruth value (.contains field text) truth

theorem occurs_iff_within {part text : List Char} :
    Text.occurs part text = true ↔ part <:+: text := by
  rw [Text.occurs_eq_true_iff]
  constructor
  · rintro ⟨before, behind, rfl⟩
    exact ⟨before, behind, rfl⟩
  · rintro ⟨before, behind, rfl⟩
    exact ⟨before, behind, rfl⟩

theorem not_isNull_iff {cell : Cell} : (!cell.isNull) = true ↔ cell ≠ .null := by
  rw [Bool.not_eq_true', Bool.eq_false_iff, ne_eq, ne_eq, Cell.isNull_eq_true_iff]

theorem textTruth_of_present {cell : Cell} (present : cell ≠ .null) (test : List Char → Bool) :
    cell.textTruth test = .ofBool (test (Relational.textOf cell).toList) := by
  have isPresent : cell.isNull = false := by
    rw [Bool.eq_false_iff]
    exact fun isNull => present (Cell.isNull_eq_true_iff.mp isNull)
  simp [Cell.textTruth, isPresent]

theorem textTruth_of_hasText {cell : Cell} {shown : String} (hasText : cell.HasText shown)
    (test : List Char → Bool) : cell.textTruth test = .ofBool (test shown.toList) := by
  rw [textTruth_of_present hasText.ne_null, hasText.textOf_eq]

theorem comparison_truth_of_ordered {cell other : Cell} {ordering : Ordering}
    (ordered : cell.Ordered other ordering) (comparison : Comparison) :
    comparison.truth cell other = .ofBool (Relational.admits comparison ordering) := by
  simp [Comparison.truth, ordered.compareCells_eq]

theorem within_iff {fromLeast toGreatest : Ordering} :
    (Relational.admits .greaterOrEqual fromLeast && Relational.admits .lessOrEqual toGreatest) =
      true ↔ fromLeast ≠ .lt ∧ toGreatest ≠ .gt := by
  simp [Relational.admits]

/-- The rules give no other truth than the computed one. -/
theorem HasTruth.truth_eq {predicate : Predicate} {truth : Truth}
    (judged : predicate.HasTruth value truth) : predicate.truth value = truth := by
  induction judged with
  | and_yes _ ih =>
      rw [Predicate.truth]
      exact truthOfAll_eq_yes_iff.mpr ih
  | and_no member _ ih =>
      rw [Predicate.truth]
      exact truthOfAll_eq_no_iff.mpr ⟨_, member, ih⟩
  | and_unknown _ possible member isUnknown ih =>
      rw [Predicate.truth]
      refine truthOfAll_eq_unknown_iff.mpr ⟨fun other isOther => ?_, _, member, ?_⟩
      · rw [ih other isOther]
        exact possible other isOther
      · rw [ih _ member, isUnknown]
  | or_yes member _ ih =>
      rw [Predicate.truth]
      exact truthOfAny_eq_yes_iff.mpr ⟨_, member, ih⟩
  | or_no _ ih =>
      rw [Predicate.truth]
      exact truthOfAny_eq_no_iff.mpr ih
  | or_unknown _ possible member isUnknown ih =>
      rw [Predicate.truth]
      refine truthOfAny_eq_unknown_iff.mpr ⟨fun other isOther => ?_, _, member, ?_⟩
      · rw [ih other isOther]
        exact possible other isOther
      · rw [ih _ member, isUnknown]
  | not_yes _ same | not_no _ same | not_unknown _ same =>
      rw [Predicate.truth, same]
      rfl
  | compare_null isNull => simp [Predicate.truth, Comparison.truth, isNull]
  | compare ordered answers =>
      rw [Predicate.truth, comparison_truth_of_ordered ordered,
        answers.eq_ofBool Comparison.admits_eq_true_iff]
  | between_null isNull => simp [Predicate.truth, Comparison.truth, isNull, Truth.and]
  | between fromLeast toGreatest answers =>
      rw [Predicate.truth, comparison_truth_of_ordered fromLeast,
        comparison_truth_of_ordered toGreatest, Truth.ofBool_and, answers.eq_ofBool within_iff]
  | isNull answers =>
      rw [Predicate.truth, Bool.bne_false, answers.eq_ofBool Cell.isNull_eq_true_iff]
  | notNull answers =>
      rw [Predicate.truth, Bool.bne_true, answers.eq_ofBool not_isNull_iff]
  | startsWith_null isNull => simp [Predicate.truth, Cell.textTruth, isNull]
  | startsWith hasText answers =>
      rw [Predicate.truth, textTruth_of_hasText hasText,
        answers.eq_ofBool List.isPrefixOf_iff_prefix]
  | contains_null isNull => simp [Predicate.truth, Cell.textTruth, isNull]
  | contains hasText answers =>
      rw [Predicate.truth, textTruth_of_hasText hasText, answers.eq_ofBool occurs_iff_within]

theorem hasTruth_and {clauses : List Predicate}
    (each : ∀ clause ∈ clauses, clause.HasTruth value (clause.truth value)) :
    (Predicate.and clauses).HasTruth value (truthOfAll value clauses) := by
  cases isTruth : truthOfAll value clauses with
  | yes =>
      refine .and_yes fun clause member => ?_
      rw [← truthOfAll_eq_yes_iff.mp isTruth clause member]
      exact each clause member
  | no =>
      obtain ⟨clause, member, fails⟩ := truthOfAll_eq_no_iff.mp isTruth
      exact .and_no member (fails ▸ each clause member)
  | unknown =>
      obtain ⟨possible, clause, member, isUnknown⟩ := truthOfAll_eq_unknown_iff.mp isTruth
      exact .and_unknown each possible member isUnknown

theorem hasTruth_or {clauses : List Predicate}
    (each : ∀ clause ∈ clauses, clause.HasTruth value (clause.truth value)) :
    (Predicate.or clauses).HasTruth value (truthOfAny value clauses) := by
  cases isTruth : truthOfAny value clauses with
  | yes =>
      obtain ⟨clause, member, holds⟩ := truthOfAny_eq_yes_iff.mp isTruth
      exact .or_yes member (holds ▸ each clause member)
  | no =>
      refine .or_no fun clause member => ?_
      rw [← truthOfAny_eq_no_iff.mp isTruth clause member]
      exact each clause member
  | unknown =>
      obtain ⟨possible, clause, member, isUnknown⟩ := truthOfAny_eq_unknown_iff.mp isTruth
      exact .or_unknown each possible member isUnknown

theorem hasTruth_not {clause : Predicate} {truth : Truth} (judged : clause.HasTruth value truth) :
    (Predicate.not clause).HasTruth value truth.not := by
  cases truth with
  | no => exact .not_yes judged
  | unknown => exact .not_unknown judged
  | yes => exact .not_no judged

/-- The rules give a comparable predicate its computed truth. -/
theorem Comparable.hasTruth {predicate : Predicate} (comparable : predicate.Comparable value)
    (comparands : ∀ cell ∈ predicate.values, cell.Comparand) :
    predicate.HasTruth value (predicate.truth value) := by
  induction comparable with
  | and _ ih =>
      refine hasTruth_and fun clause member => ih clause member fun cell compared => ?_
      exact comparands cell (mem_valuesOfEach.mpr ⟨clause, member, compared⟩)
  | or _ ih =>
      refine hasTruth_or fun clause member => ih clause member fun cell compared => ?_
      exact comparands cell (mem_valuesOfEach.mpr ⟨clause, member, compared⟩)
  | not _ ih => exact hasTruth_not (ih comparands)
  | @compare field comparison cell kind =>
      have comparand := comparands cell (by simp [values])
      by_cases isNull : value field = .null
      · have judged : HasTruth value (.compare field comparison cell) .unknown :=
          .compare_null isNull
        rwa [judged.truth_eq]
      · obtain ⟨ordering, ordered⟩ := kind.ordered comparand isNull
        rw [Predicate.truth, comparison_truth_of_ordered ordered]
        exact .compare ordered (Truth.answers_ofBool Comparison.admits_eq_true_iff)
  | @between field least greatest leastKind greatestKind =>
      have isLeast := comparands least (by simp [values])
      have isGreatest := comparands greatest (by simp [values])
      by_cases isNull : value field = .null
      · have judged : HasTruth value (.between field least greatest) .unknown :=
          .between_null isNull
        rwa [judged.truth_eq]
      · obtain ⟨fromLeast, leastOrdered⟩ := leastKind.ordered isLeast isNull
        obtain ⟨toGreatest, greatestOrdered⟩ := greatestKind.ordered isGreatest isNull
        rw [Predicate.truth, comparison_truth_of_ordered leastOrdered,
          comparison_truth_of_ordered greatestOrdered, Truth.ofBool_and]
        exact .between leastOrdered greatestOrdered (Truth.answers_ofBool within_iff)
  | @isNull field negated =>
      cases negated with
      | false =>
          rw [Predicate.truth, Bool.bne_false]
          exact .isNull (Truth.answers_ofBool Cell.isNull_eq_true_iff)
      | true =>
          rw [Predicate.truth, Bool.bne_true]
          exact .notNull (Truth.answers_ofBool not_isNull_iff)
  | @startsWith field text =>
      by_cases isNull : value field = .null
      · have judged : HasTruth value (.startsWith field text) .unknown := .startsWith_null isNull
        rwa [judged.truth_eq]
      · rw [Predicate.truth, textTruth_of_present isNull]
        exact .startsWith (Cell.hasText_of_present isNull)
          (Truth.answers_ofBool List.isPrefixOf_iff_prefix)
  | @contains field text =>
      by_cases isNull : value field = .null
      · have judged : HasTruth value (.contains field text) .unknown := .contains_null isNull
        rwa [judged.truth_eq]
      · rw [Predicate.truth, textTruth_of_present isNull]
        exact .contains (Cell.hasText_of_present isNull) (Truth.answers_ofBool occurs_iff_within)

end Predicate

end CrossQuery
