import CrossQuery.Plan
import CrossQuery.Relational.Operation
import CrossQuery.Text.Search

/-!
# What predicates mean

The truth of a predicate on a record, which gives a cell to each field. Tests on null are unknown
and the connectives are Kleene's. The reading of a predicate answers its tests with yes or no
instead, and takes what is unknown for a no.
-/

set_option autoImplicit false

namespace CrossQuery

namespace Truth

@[simp] theorem holds_and (left right : Truth) :
    (left.and right).holds = (left.holds && right.holds) := by
  cases left <;> cases right <;> rfl

@[simp] theorem holds_or (left right : Truth) :
    (left.or right).holds = (left.holds || right.holds) := by
  cases left <;> cases right <;> rfl

theorem eq_unknown_iff {truth : Truth} : truth = .unknown ↔ truth ≠ .yes ∧ truth ≠ .no := by
  cases truth <;> simp

theorem and_eq_yes_iff {left right : Truth} :
    left.and right = .yes ↔ left = .yes ∧ right = .yes := by
  cases left <;> cases right <;> simp [and]

theorem and_eq_no_iff {left right : Truth} :
    left.and right = .no ↔ left = .no ∨ right = .no := by
  cases left <;> cases right <;> simp [and]

theorem or_eq_yes_iff {left right : Truth} :
    left.or right = .yes ↔ left = .yes ∨ right = .yes := by
  cases left <;> cases right <;> simp [or]

theorem or_eq_no_iff {left right : Truth} :
    left.or right = .no ↔ left = .no ∧ right = .no := by
  cases left <;> cases right <;> simp [or]

theorem ofBool_and (left right : Bool) :
    (ofBool left).and (.ofBool right) = .ofBool (left && right) := by
  cases left <;> cases right <;> rfl

end Truth

/-- The answer of a comparison between two cells. -/
def Comparison.truth (comparison : Comparison) (cell value : Cell) : Truth :=
  match Relational.compareCells cell value with
  | some ordering => .ofBool (Relational.admits comparison ordering)
  | none => .unknown

/-- The answer of a test on the text of a cell. -/
def Cell.textTruth (test : List Char → Bool) (cell : Cell) : Truth :=
  if cell.isNull then .unknown else .ofBool (test (Relational.textOf cell).toList)

namespace Predicate

mutual

/-- The truth of a predicate on a record. -/
def truth (value : PlanField → Cell) : Predicate → Truth
  | .and clauses => truthOfAll value clauses
  | .or clauses => truthOfAny value clauses
  | .not clause => (truth value clause).not
  | .compare field comparison cell => comparison.truth (value field) cell
  | .between field least greatest =>
    (Comparison.greaterOrEqual.truth (value field) least).and
      (Comparison.lessOrEqual.truth (value field) greatest)
  | .isNull field negated => .ofBool ((value field).isNull != negated)
  | .startsWith field text => (value field).textTruth text.toList.isPrefixOf
  | .contains field text => (value field).textTruth (Text.occurs text.toList)

def truthOfAll (value : PlanField → Cell) : List Predicate → Truth
  | [] => .yes
  | clause :: rest => (truth value clause).and (truthOfAll value rest)

def truthOfAny (value : PlanField → Cell) : List Predicate → Truth
  | [] => .no
  | clause :: rest => (truth value clause).or (truthOfAny value rest)

end

mutual

/-- The answer to a predicate when each test that is unknown counts as failed. -/
def reading (value : PlanField → Cell) : Predicate → Bool
  | .and clauses => readingOfAll value clauses
  | .or clauses => readingOfAny value clauses
  | .not clause => !reading value clause
  | .compare field comparison cell => (truth value (.compare field comparison cell)).holds
  | .between field least greatest => (truth value (.between field least greatest)).holds
  | .isNull field negated => (truth value (.isNull field negated)).holds
  | .startsWith field text => (truth value (.startsWith field text)).holds
  | .contains field text => (truth value (.contains field text)).holds

def readingOfAll (value : PlanField → Cell) : List Predicate → Bool
  | [] => true
  | clause :: rest => reading value clause && readingOfAll value rest

def readingOfAny (value : PlanField → Cell) : List Predicate → Bool
  | [] => false
  | clause :: rest => reading value clause || readingOfAny value rest

end

mutual

def fields : Predicate → List PlanField
  | .and clauses => fieldsOfEach clauses
  | .or clauses => fieldsOfEach clauses
  | .not clause => fields clause
  | .compare field _ _ => [field]
  | .between field _ _ => [field]
  | .isNull field _ => [field]
  | .startsWith field _ => [field]
  | .contains field _ => [field]

def fieldsOfEach : List Predicate → List PlanField
  | [] => []
  | clause :: rest => fields clause ++ fieldsOfEach rest

end

mutual

/-- The values that a predicate compares fields with. -/
def values : Predicate → List Cell
  | .and clauses => valuesOfEach clauses
  | .or clauses => valuesOfEach clauses
  | .not clause => values clause
  | .compare _ _ cell => [cell]
  | .between _ least greatest => [least, greatest]
  | .isNull _ _ => []
  | .startsWith _ _ => []
  | .contains _ _ => []

def valuesOfEach : List Predicate → List Cell
  | [] => []
  | clause :: rest => values clause ++ valuesOfEach rest

end

theorem mem_fieldsOfEach {field : PlanField} {clauses : List Predicate} :
    field ∈ fieldsOfEach clauses ↔ ∃ clause ∈ clauses, field ∈ clause.fields := by
  induction clauses with
  | nil => simp [fieldsOfEach]
  | cons clause rest ih => simp [fieldsOfEach, ih]

theorem mem_valuesOfEach {cell : Cell} {clauses : List Predicate} :
    cell ∈ valuesOfEach clauses ↔ ∃ clause ∈ clauses, cell ∈ clause.values := by
  induction clauses with
  | nil => simp [valuesOfEach]
  | cons clause rest ih => simp [valuesOfEach, ih]

section Connectives

variable {value : PlanField → Cell}

theorem truthOfAll_eq_yes_iff {clauses : List Predicate} :
    truthOfAll value clauses = .yes ↔ ∀ clause ∈ clauses, clause.truth value = .yes := by
  induction clauses with
  | nil => simp [truthOfAll]
  | cons clause rest ih => simp [truthOfAll, Truth.and_eq_yes_iff, ih]

theorem truthOfAll_eq_no_iff {clauses : List Predicate} :
    truthOfAll value clauses = .no ↔ ∃ clause ∈ clauses, clause.truth value = .no := by
  induction clauses with
  | nil => simp [truthOfAll]
  | cons clause rest ih => simp [truthOfAll, Truth.and_eq_no_iff, ih]

theorem truthOfAny_eq_yes_iff {clauses : List Predicate} :
    truthOfAny value clauses = .yes ↔ ∃ clause ∈ clauses, clause.truth value = .yes := by
  induction clauses with
  | nil => simp [truthOfAny]
  | cons clause rest ih => simp [truthOfAny, Truth.or_eq_yes_iff, ih]

theorem truthOfAny_eq_no_iff {clauses : List Predicate} :
    truthOfAny value clauses = .no ↔ ∀ clause ∈ clauses, clause.truth value = .no := by
  induction clauses with
  | nil => simp [truthOfAny]
  | cons clause rest ih => simp [truthOfAny, Truth.or_eq_no_iff, ih]

/-- If no clause has the truth that decides and not all have the one that leaves things as they are,
then some clause is unknown. -/
theorem undecided_iff {decisive neutral : Truth} {clauses : List Predicate}
    (apart : ∀ truth : Truth, truth = .unknown ↔ truth ≠ decisive ∧ truth ≠ neutral) :
    ((¬∃ clause ∈ clauses, clause.truth value = decisive) ∧
        ¬∀ clause ∈ clauses, clause.truth value = neutral) ↔
      (∀ clause ∈ clauses, clause.truth value ≠ decisive) ∧
        ∃ clause ∈ clauses, clause.truth value = .unknown := by
  constructor
  · rintro ⟨undecided, notAll⟩
    have noneDecides : ∀ clause ∈ clauses, clause.truth value ≠ decisive :=
      fun clause member decides => undecided ⟨clause, member, decides⟩
    obtain ⟨clause, member, differs⟩ : ∃ clause ∈ clauses, clause.truth value ≠ neutral := by
      simpa using notAll
    exact ⟨noneDecides, clause, member, (apart _).mpr ⟨noneDecides clause member, differs⟩⟩
  · rintro ⟨noneDecides, clause, member, isUnknown⟩
    refine ⟨fun ⟨other, isOther, decides⟩ => noneDecides other isOther decides, fun all => ?_⟩
    exact ((apart _).mp isUnknown).2 (all clause member)

theorem truthOfAll_eq_unknown_iff {clauses : List Predicate} :
    truthOfAll value clauses = .unknown ↔ (∀ clause ∈ clauses, clause.truth value ≠ .no) ∧
      ∃ clause ∈ clauses, clause.truth value = .unknown := by
  rw [Truth.eq_unknown_iff, ne_eq, ne_eq, truthOfAll_eq_yes_iff, truthOfAll_eq_no_iff, and_comm]
  exact undecided_iff fun _ => Truth.eq_unknown_iff.trans and_comm

theorem truthOfAny_eq_unknown_iff {clauses : List Predicate} :
    truthOfAny value clauses = .unknown ↔ (∀ clause ∈ clauses, clause.truth value ≠ .yes) ∧
      ∃ clause ∈ clauses, clause.truth value = .unknown := by
  rw [Truth.eq_unknown_iff, ne_eq, ne_eq, truthOfAny_eq_yes_iff, truthOfAny_eq_no_iff]
  exact undecided_iff fun _ => Truth.eq_unknown_iff

end Connectives

/-- A predicate without negations. -/
inductive Positive : Predicate → Prop where
  | and {clauses} : (∀ clause ∈ clauses, Positive clause) → Positive (.and clauses)
  | or {clauses} : (∀ clause ∈ clauses, Positive clause) → Positive (.or clauses)
  | compare {field comparison cell} : Positive (.compare field comparison cell)
  | between {field least greatest} : Positive (.between field least greatest)
  | isNull {field negated} : Positive (.isNull field negated)
  | startsWith {field text} : Positive (.startsWith field text)
  | contains {field text} : Positive (.contains field text)

theorem readingOfAll_eq_holds {value : PlanField → Cell} {clauses : List Predicate}
    (agree : ∀ clause ∈ clauses, clause.reading value = (clause.truth value).holds) :
    readingOfAll value clauses = (truthOfAll value clauses).holds := by
  induction clauses with
  | nil => rfl
  | cons clause rest ih =>
      have first := agree clause List.mem_cons_self
      have others := ih fun other member => agree other (List.mem_cons_of_mem _ member)
      rw [readingOfAll, truthOfAll, Truth.holds_and, first, others]

theorem readingOfAny_eq_holds {value : PlanField → Cell} {clauses : List Predicate}
    (agree : ∀ clause ∈ clauses, clause.reading value = (clause.truth value).holds) :
    readingOfAny value clauses = (truthOfAny value clauses).holds := by
  induction clauses with
  | nil => rfl
  | cons clause rest ih =>
      have first := agree clause List.mem_cons_self
      have others := ih fun other member => agree other (List.mem_cons_of_mem _ member)
      rw [readingOfAny, truthOfAny, Truth.holds_or, first, others]

/-- Without negations the reading of a predicate is whether it holds. -/
theorem Positive.reading_eq {predicate : Predicate} (positive : predicate.Positive)
    (value : PlanField → Cell) :
    predicate.reading value = (predicate.truth value).holds := by
  induction positive with
  | and _ ih => exact readingOfAll_eq_holds ih
  | or _ ih => exact readingOfAny_eq_holds ih
  | compare => rfl
  | between => rfl
  | isNull => rfl
  | startsWith => rfl
  | contains => rfl

theorem readsAs_holds (truth : Truth) :
    (truth = .yes → truth.holds = true) ∧ (truth = .no → truth.holds = false) := by
  cases truth <;> decide

mutual

/-- What is true is read as true, and what is false as false. -/
theorem reading_of_known (value : PlanField → Cell) (predicate : Predicate) :
    (predicate.truth value = .yes → predicate.reading value = true) ∧
      (predicate.truth value = .no → predicate.reading value = false) := by
  cases predicate with
  | and clauses => exact readingOfAll_of_known value clauses
  | or clauses => exact readingOfAny_of_known value clauses
  | not clause =>
      obtain ⟨whenTrue, whenFalse⟩ := reading_of_known value clause
      simp only [truth, reading]
      cases known : clause.truth value with
      | yes => simp [Truth.not, whenTrue known]
      | no => simp [Truth.not, whenFalse known]
      | unknown => simp [Truth.not]
  | compare field comparison cell => exact readsAs_holds _
  | between field least greatest => exact readsAs_holds _
  | isNull field negated => exact readsAs_holds _
  | startsWith field text => exact readsAs_holds _
  | contains field text => exact readsAs_holds _

theorem readingOfAll_of_known (value : PlanField → Cell) (clauses : List Predicate) :
    (truthOfAll value clauses = .yes → readingOfAll value clauses = true) ∧
      (truthOfAll value clauses = .no → readingOfAll value clauses = false) := by
  cases clauses with
  | nil => exact ⟨fun _ => rfl, nofun⟩
  | cons clause rest =>
      obtain ⟨whenTrue, whenFalse⟩ := reading_of_known value clause
      obtain ⟨allTrue, allFalse⟩ := readingOfAll_of_known value rest
      simp only [truthOfAll, readingOfAll]
      cases first : clause.truth value <;> cases others : truthOfAll value rest <;>
        simp_all [Truth.and]

theorem readingOfAny_of_known (value : PlanField → Cell) (clauses : List Predicate) :
    (truthOfAny value clauses = .yes → readingOfAny value clauses = true) ∧
      (truthOfAny value clauses = .no → readingOfAny value clauses = false) := by
  cases clauses with
  | nil => exact ⟨nofun, fun _ => rfl⟩
  | cons clause rest =>
      obtain ⟨whenTrue, whenFalse⟩ := reading_of_known value clause
      obtain ⟨anyTrue, anyFalse⟩ := readingOfAny_of_known value rest
      simp only [truthOfAny, readingOfAny]
      cases first : clause.truth value <;> cases others : truthOfAny value rest <;>
        simp_all [Truth.or]

end

end Predicate

end CrossQuery
