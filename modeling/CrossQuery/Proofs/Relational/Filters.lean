import CrossQuery.Proofs.Relational.Conditions

/-!
# Filters on rows

The condition of a filter never fails on a row that holds values of the kinds they are compared
with, and its truth is the one that the rules give the filter on the record of the row.
-/

set_option autoImplicit false

namespace CrossQuery.Relational

variable {scope : Scope} {naming : Naming} {row : List Cell}

/-- The one column that the name of a field means, and its place in the row. -/
def Scope.resolveField (scope : Scope) (naming : Naming) (field : PlanField) :
    Except Refusal (Column × Nat) :=
  scope.resolve (some (naming.spell field.tableAlias)) (naming.spell field.field.name)

/-- The cell of a field in a row. A field without a column has no value. -/
def Scope.cellOf (scope : Scope) (naming : Naming) (row : List Cell) (field : PlanField) : Cell :=
  match scope.resolveField naming field with
  | .ok found => row.getD found.2 .null
  | .error _ => .null

theorem Scope.evaluate_columnOfField {field : PlanField} {found : Column × Nat}
    (resolved : scope.resolveField naming field = .ok found) :
    scope.evaluate row (columnOfField naming field) = .ok (scope.cellOf naming row field) := by
  have isFound := resolved
  rw [resolveField] at isFound
  rw [columnOfField, evaluate, isFound, cellOf, resolved]
  rfl

theorem Comparand.scalar {cell : Cell} (comparand : cell.Comparand) : cell.Scalar := by
  cases comparand with
  | boolean value => exact .boolean value
  | integer value => exact .integer value
  | text value => exact .text value
  | date value => exact .date value
  | timestamp value => exact .timestamp value

/-- The condition of a predicate has the truth that the rules give the predicate, and no other. -/
theorem condition_judged {predicate : Predicate}
    (comparands : ∀ cell ∈ predicate.values, cell.Comparand)
    (resolved : ∀ field ∈ predicate.fields, ∃ found, scope.resolveField naming field = .ok found)
    (comparable : predicate.Comparable (scope.cellOf naming row)) :
    ∃ truth, scope.truth (condition naming predicate) row = .ok truth ∧
      predicate.HasTruth (scope.cellOf naming row) truth ∧
      ∀ other, predicate.HasTruth (scope.cellOf naming row) other → other = truth := by
  refine ⟨predicate.truth (scope.cellOf naming row), ?_, ?_, ?_⟩
  · apply truth_condition comparable
    · exact fun cell compared => Comparand.scalar (comparands cell compared)
    · intro field tested
      obtain ⟨found, isFound⟩ := resolved field tested
      exact Scope.evaluate_columnOfField isFound
  · exact comparable.hasTruth comparands
  · exact fun other judged => judged.truth_eq.symm

/-- Products with a name, a price and the day on which they were first sold. -/
def productScope : Scope :=
  [⟨"PRODUCTS", [⟨"NAME", "VARCHAR"⟩, ⟨"PRICE", "BIGINT"⟩, ⟨"SOLD", "DATE"⟩]⟩]

/-- A product that has no price yet. -/
def offeredProduct : List Cell :=
  [.text "50%_off", .null, .date ⟨2024, 2, 29, by decide⟩]

def productField (id : Int) (name : String) (type : BaseType) : PlanField :=
  .direct ⟨id, 1, name, type, none, none, none, 0⟩ ⟨1, 1, "products", none⟩

/-- The products whose name begins with `50%_` that were sold from a leap day on, or that are not
known to be cheap. -/
def offersOrDear : Predicate :=
  .or
    [.not (.compare (productField 2 "price" .integer) .less (.int64 3)),
      .and
        [.startsWith (productField 1 "name" .text) "50%_", .and [], .not (.or []),
          .compare (productField 3 "sold" .date) .greaterOrEqual (.date ⟨2024, 2, 29, by decide⟩)]]

theorem offersOrDear_comparable :
    offersOrDear.Comparable (productScope.cellOf .upperCase offeredProduct) := by
  have tests : ∀ clause ∈ [Predicate.startsWith (productField 1 "name" .text) "50%_", .and [],
      .not (.or []), .compare (productField 3 "sold" .date) .greaterOrEqual
        (.date ⟨2024, 2, 29, by decide⟩)],
      clause.Comparable (productScope.cellOf .upperCase offeredProduct) := by
    intro clause member
    simp only [List.mem_cons, List.not_mem_nil, or_false] at member
    rcases member with rfl | rfl | rfl | rfl
    · exact .startsWith
    · exact .and fun clause member => absurd member List.not_mem_nil
    · exact .not (.or fun clause member => absurd member List.not_mem_nil)
    · exact .compare (.date _ _)
  apply Predicate.Comparable.or
  intro clause member
  simp only [List.mem_cons, List.not_mem_nil, or_false] at member
  rcases member with rfl | rfl
  · exact .not (.compare (.null _))
  · exact .and tests

theorem offersOrDear_judged :
    ∃ truth, productScope.truth (condition .upperCase offersOrDear) offeredProduct = .ok truth ∧
      offersOrDear.HasTruth (productScope.cellOf .upperCase offeredProduct) truth ∧
      ∀ other, offersOrDear.HasTruth (productScope.cellOf .upperCase offeredProduct) other →
        other = truth := by
  apply condition_judged
  · intro cell member
    have known : cell = .int64 3 ∨ cell = .date ⟨2024, 2, 29, by decide⟩ := by
      simpa [offersOrDear, Predicate.values, Predicate.valuesOfEach] using member
    rcases known with rfl | rfl
    · exact .integer 3
    · exact .date _
  · intro field member
    have known : field = productField 2 "price" .integer ∨ field = productField 1 "name" .text ∨
        field = productField 3 "sold" .date := by
      simpa [offersOrDear, Predicate.fields, Predicate.fieldsOfEach] using member
    rcases known with rfl | rfl | rfl
    · exact ⟨_, rfl⟩
    · exact ⟨_, rfl⟩
    · exact ⟨_, rfl⟩
  · exact offersOrDear_comparable

example : productScope.truth (condition .upperCase offersOrDear) offeredProduct = .ok .yes := by
  rfl

end CrossQuery.Relational
