import CrossQuery.Proofs.Relational.Conditions

/-!
# Membership in lists

Whether a value is in a list is found by a search that knows two answers, with rules of its own for
nulls. It has the truth of the chain of equalities that the list stands for, all of them with three
answers: a null in the list leaves open what no other item settles.
-/

set_option autoImplicit false

namespace CrossQuery

theorem Truth.no_or (truth : Truth) : Truth.no.or truth = truth := by
  cases truth <;> rfl

namespace Relational

open Select

/-- The equalities of an operand with each of some items, joined by OR from the left. -/
def equalToAny (operand first : Expression) (rest : List Expression) : Expression :=
  rest.foldl (fun chain item => .binary .or chain (.binary (.compare .equal) operand item))
    (.binary (.compare .equal) operand first)

/-- The equality of two cells has an answer unless one of them is null. -/
def Matchable (cell item : Cell) : Prop :=
  cell.isNull = false → item.isNull = false → (compareCells cell item).isSome = true

instance (cell item : Cell) : Decidable (Matchable cell item) :=
  inferInstanceAs (Decidable (_ → _ → _))

section Cells

variable {cell item : Cell} {items : List Cell}

theorem compareCells_null_left (cell : Cell) : compareCells .null cell = none := by
  cases cell <;> rfl

theorem compareCells_null_right (cell : Cell) : compareCells cell .null = none := by
  cases cell <;> rfl

theorem equal_truth_null_left (cell : Cell) : Comparison.equal.truth .null cell = .unknown := by
  rw [Comparison.truth, compareCells_null_left]

theorem equal_truth_null_right (cell : Cell) : Comparison.equal.truth cell .null = .unknown := by
  rw [Comparison.truth, compareCells_null_right]

/-- Where an equality has an answer, the answer is yes if the order finds the cells equal. -/
theorem Matchable.equal_truth (matchable : Matchable cell item) (present : cell.isNull = false)
    (itemPresent : item.isNull = false) :
    Comparison.equal.truth cell item = .ofBool (compareCells cell item == some .eq) := by
  obtain ⟨ordering, found⟩ := Option.isSome_iff_exists.mp (matchable present itemPresent)
  rw [Comparison.truth, found]
  cases ordering <;> rfl

/-- The operator of equality has the answer of the comparison. -/
theorem Matchable.compareTruth_eq (matchable : Matchable cell item) :
    compareTruth .equal cell item = .ok (Comparison.equal.truth cell item) := by
  rw [compareTruth]
  split
  · next missing =>
      rcases Bool.or_eq_true_iff.mp missing with isNull | isNull
      · rw [Cell.isNull_eq_true_iff.mp isNull, equal_truth_null_left]
      · rw [Cell.isNull_eq_true_iff.mp isNull, equal_truth_null_right]
  · next present =>
      obtain ⟨present, itemPresent⟩ := by simpa using present
      obtain ⟨ordering, found⟩ := Option.isSome_iff_exists.mp (matchable present itemPresent)
      rw [Comparison.truth, found]

/-- One more item adds its equality to the truth of a membership. -/
theorem Matchable.memberTruth_cons (matchable : Matchable cell item) (items : List Cell) :
    memberTruth cell (item :: items) =
      (Comparison.equal.truth cell item).or (memberTruth cell items) := by
  cases isNull : cell.isNull with
  | true =>
      rw [Cell.isNull_eq_true_iff.mp isNull, equal_truth_null_left]
      rfl
  | false =>
      cases itemNull : item.isNull with
      | true =>
          -- The null is not the cell, and leaves open what the other items do not settle.
          rw [Cell.isNull_eq_true_iff.mp itemNull, equal_truth_null_right]
          simp only [memberTruth, isNull, List.any_cons, compareCells_null_right]
          cases items.any fun item => compareCells cell item == some .eq <;>
            cases items.any Cell.isNull <;> rfl
      | false =>
          rw [matchable.equal_truth isNull itemNull]
          simp only [memberTruth, isNull, itemNull, List.any_cons, Bool.false_or]
          cases compareCells cell item == some .eq <;>
            cases items.any fun item => compareCells cell item == some .eq <;>
              cases items.any Cell.isNull <;> rfl

theorem Matchable.memberTruth_singleton (matchable : Matchable cell item) :
    memberTruth cell [item] = Comparison.equal.truth cell item := by
  rw [matchable.memberTruth_cons]
  cases isNull : cell.isNull with
  | true =>
      rw [Cell.isNull_eq_true_iff.mp isNull, equal_truth_null_left]
      rfl
  | false => simp [memberTruth, isNull]

/-- The truth of a membership is collected by OR over the items, from the left. -/
theorem or_memberTruth (truth : Truth) (matchable : ∀ other ∈ item :: items, Matchable cell other) :
    truth.or (memberTruth cell (item :: items)) =
      items.foldl (fun truth item => truth.or (Comparison.equal.truth cell item))
        (truth.or (Comparison.equal.truth cell item)) := by
  obtain ⟨first, rest⟩ := List.forall_mem_cons.mp matchable
  induction items generalizing truth item with
  | nil => rw [first.memberTruth_singleton, List.foldl_nil]
  | cons next items ih =>
      obtain ⟨nextMatchable, restMatchable⟩ := List.forall_mem_cons.mp rest
      rw [first.memberTruth_cons, ← Truth.or_assoc, List.foldl_cons]
      exact ih _ rest nextMatchable restMatchable

theorem memberTruth_eq_foldl (matchable : ∀ other ∈ item :: items, Matchable cell other) :
    memberTruth cell (item :: items) =
      items.foldl (fun truth item => truth.or (Comparison.equal.truth cell item))
        (Comparison.equal.truth cell item) := by
  simpa only [Truth.no_or] using or_memberTruth .no matchable

end Cells

section Expressions

variable {scope : Scope} {row : List Cell} {operand first chain : Expression}
  {rest : List Expression} {value : Cell} {values : List Cell} {truth : Truth}

theorem evaluateAll_cons_eq_ok {items : List Expression} :
    scope.evaluateAll row (first :: items) = .ok values ↔
      ∃ value others, scope.evaluate row first = .ok value ∧
        scope.evaluateAll row items = .ok others ∧ values = value :: others := by
  rw [Scope.evaluateAll]
  constructor
  · intro evaluated
    obtain ⟨value, isFirst, evaluated⟩ := Outcome.bind_eq_ok.mp evaluated
    obtain ⟨others, areOthers, evaluated⟩ := Outcome.bind_eq_ok.mp evaluated
    cases evaluated
    exact ⟨value, others, isFirst, areOthers, rfl⟩
  · rintro ⟨value, others, isFirst, areOthers, rfl⟩
    rw [isFirst, Outcome.ok_bind, areOthers]
    rfl

/-- An equality is evaluated to its truth. -/
theorem evaluate_equal {item : Expression} {other : Cell}
    (isValue : scope.evaluate row operand = .ok value)
    (isOther : scope.evaluate row item = .ok other) (matchable : Matchable value other) :
    scope.evaluate row (.binary (.compare .equal) operand item) =
      .ok (cellOfTruth (Comparison.equal.truth value other)) := by
  simp [Scope.evaluate, isValue, isOther, operate, matchable.compareTruth_eq]

/-- Each equality that is added to a chain is added to its truth. -/
theorem evaluate_foldl_equal (evaluated : scope.evaluate row chain = .ok (cellOfTruth truth))
    (isValue : scope.evaluate row operand = .ok value)
    (areValues : scope.evaluateAll row rest = .ok values)
    (matchable : ∀ other ∈ values, Matchable value other) :
    scope.evaluate row
        (rest.foldl (fun chain item => .binary .or chain (.binary (.compare .equal) operand item))
          chain) =
      .ok (cellOfTruth
        (values.foldl (fun truth item => truth.or (Comparison.equal.truth value item)) truth)) := by
  induction rest generalizing chain truth values with
  | nil =>
      cases areValues
      exact evaluated
  | cons item rest ih =>
      obtain ⟨other, others, isOther, areOthers, rfl⟩ := evaluateAll_cons_eq_ok.mp areValues
      obtain ⟨otherMatchable, restMatchable⟩ := List.forall_mem_cons.mp matchable
      rw [List.foldl_cons, List.foldl_cons]
      apply ih _ areOthers restMatchable
      have equality := evaluate_equal isValue isOther otherMatchable
      rw [Scope.evaluate, evaluated, Outcome.ok_bind, equality]
      simp [operate]

theorem evaluate_equalToAny (isValue : scope.evaluate row operand = .ok value)
    (areValues : scope.evaluateAll row (first :: rest) = .ok values)
    (matchable : ∀ other ∈ values, Matchable value other) :
    scope.evaluate row (equalToAny operand first rest) =
      .ok (cellOfTruth (memberTruth value values)) := by
  obtain ⟨other, others, isOther, areOthers, rfl⟩ := evaluateAll_cons_eq_ok.mp areValues
  obtain ⟨firstMatchable, restMatchable⟩ := List.forall_mem_cons.mp matchable
  rw [memberTruth_eq_foldl matchable]
  exact evaluate_foldl_equal (evaluate_equal isValue isOther firstMatchable) isValue areOthers
    restMatchable

/-- A membership is evaluated, without failing, to what the chain of equalities with the items is
evaluated to, and a membership that is denied to what the denied chain is evaluated to. The items
that are not null must be comparable with the value, if that is not null. -/
theorem membership_as_equalities (isValue : scope.evaluate row operand = .ok value)
    (areValues : scope.evaluateAll row (first :: rest) = .ok values)
    (matchable : ∀ other ∈ values, Matchable value other) :
    ∃ truth,
      scope.evaluate row (.inList operand (first :: rest) false) = .ok (cellOfTruth truth) ∧
      scope.evaluate row (equalToAny operand first rest) = .ok (cellOfTruth truth) ∧
      scope.evaluate row (.inList operand (first :: rest) true) = .ok (cellOfTruth truth.not) ∧
      scope.evaluate row (.unary .not (equalToAny operand first rest)) =
        .ok (cellOfTruth truth.not) := by
  have chain := evaluate_equalToAny isValue areValues matchable
  refine ⟨memberTruth value values, ?_, chain, ?_, ?_⟩
  · simp [Scope.evaluate, isValue, areValues]
  · simp [Scope.evaluate, isValue, areValues]
  · rw [Scope.evaluate, chain, Outcome.ok_bind]
    simp [operateUnary]

end Expressions

/-- Visits with a day and a note. -/
def visitScope : Scope :=
  [⟨"VISITS", [⟨"DAY", "DATE"⟩, ⟨"NOTE", "VARCHAR"⟩]⟩]

def visitRow : List Cell :=
  [.date ⟨2014, 4, 7, by decide⟩, .null]

/-- None of the days that are spelled out is the day of the visit, but the note that is missing
leaves open if the day is in the list. -/
theorem visitDay_as_equalities :
    visitScope.evaluate visitRow
        (.inList (.column none "DAY")
          [.literal (.text "2014-4-8"), .column none "NOTE", .literal (.text "2014-04-09")] true) =
      .ok .null ∧
    visitScope.evaluate visitRow
        (.unary .not (equalToAny (.column none "DAY") (.literal (.text "2014-4-8"))
          [.column none "NOTE", .literal (.text "2014-04-09")])) =
      .ok .null := by
  have isValue : visitScope.evaluate visitRow (.column none "DAY") =
      .ok (.date ⟨2014, 4, 7, by decide⟩) := by
    rfl
  have areValues : visitScope.evaluateAll visitRow
      [.literal (.text "2014-4-8"), .column none "NOTE", .literal (.text "2014-04-09")] =
        .ok [.text "2014-4-8", .null, .text "2014-04-09"] := by
    rfl
  have matchable : ∀ other ∈ [Cell.text "2014-4-8", .null, .text "2014-04-09"],
      Matchable (.date ⟨2014, 4, 7, by decide⟩) other := by
    decide
  have isOpen : visitScope.evaluate visitRow
      (.inList (.column none "DAY")
        [.literal (.text "2014-4-8"), .column none "NOTE", .literal (.text "2014-04-09")] true) =
        .ok .null := by
    rfl
  obtain ⟨truth, _, _, denied, chainDenied⟩ :=
    membership_as_equalities isValue areValues matchable
  exact ⟨isOpen, chainDenied.trans (denied.symm.trans isOpen)⟩

end Relational

end CrossQuery
