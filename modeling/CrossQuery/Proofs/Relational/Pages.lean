import CrossQuery.Proofs.Cell.Sorted
import CrossQuery.Proofs.Plan.Pages
import CrossQuery.Proofs.Relational.Answers
import CrossQuery.Proofs.Sorting

/-!
# Pages of rows

A database that sorts rows by fields of one kind each, one of which tells all rows apart, answers
with the same rows in the same order however the rows of the table are arranged. A window of the
statement cuts a part out of these.
-/

set_option autoImplicit false

namespace CrossQuery.Relational

variable {scope : Scope} {naming : Naming} {plan : Plan} {rows arranged : List (List Cell)}

section Sorting

/-- The order of rows by what their cells hold. -/
def Scope.sortingKey (scope : Scope) (naming : Naming) (order : PlanOrder) :
    SortingKey (List Cell) (Option Content) :=
  ⟨fun row => (scope.cellOf naming row order.field).content?, order.direction == .ascending⟩

theorem Scope.compareKeys_eq {orderBy : List PlanOrder}
    (kinds : ∀ order ∈ orderBy, ∃ kind : Kind, ∀ row ∈ rows,
      kind.Holds (scope.cellOf naming row order.field))
    {left right : List Cell} (isLeft : left ∈ rows) (isRight : right ∈ rows) :
    compareKeys (orderBy.map (sortKeyOfOrder naming))
        (orderBy.map fun order => scope.cellOf naming left order.field)
        (orderBy.map fun order => scope.cellOf naming right order.field) =
      Sorting.compareByKeys (orderBy.map (scope.sortingKey naming)) left right := by
  induction orderBy with
  | nil => rfl
  | cons order rest ih =>
      obtain ⟨⟨kind, holds⟩, others⟩ := List.forall_mem_cons.mp kinds
      have first := Cell.compareKey_of_holds (holds left isLeft) (holds right isRight)
        (columnOfField naming order.field) (order.direction == .ascending)
      rw [List.map_cons, List.map_cons, List.map_cons, List.map_cons, compareKeys, ih others,
        Sorting.compareByKeys, compareLex, sortKeyOfOrder, first]
      rfl

/-- Rows are sorted alike however they are arranged. -/
theorem Scope.sortRows_eq {asked : List PlanField} {orderBy : List PlanOrder}
    (perm : arranged.Perm rows)
    (kinds : ∀ order ∈ orderBy, ∃ kind : Kind, ∀ row ∈ rows,
      kind.Holds (scope.cellOf naming row order.field))
    {decisive : PlanOrder} (isOrder : decisive ∈ orderBy)
    (apart : ∀ left ∈ rows, ∀ right ∈ rows,
      (scope.cellOf naming left decisive.field).content? =
        (scope.cellOf naming right decisive.field).content? → left = right) :
    sortRows (orderBy.map (sortKeyOfOrder naming))
        (arranged.map fun row => orderedBy asked orderBy (scope.cellOf naming row)) =
      sortRows (orderBy.map (sortKeyOfOrder naming))
        (rows.map fun row => orderedBy asked orderBy (scope.cellOf naming row)) := by
  let compareRows (left right : List Cell) : Ordering :=
    compareKeys (orderBy.map (sortKeyOfOrder naming))
      (orderedBy asked orderBy (scope.cellOf naming left)).keys
      (orderedBy asked orderBy (scope.cellOf naming right)).keys
  have sorted : ∀ items : List (List Cell),
      sortRows (orderBy.map (sortKeyOfOrder naming))
          (items.map fun row => orderedBy asked orderBy (scope.cellOf naming row)) =
        (items.mergeSort fun left right => compareRows left right != .gt).map
          fun row => orderedBy asked orderBy (scope.cellOf naming row) := by
    intro items
    unfold sortRows
    refine (List.map_mergeSort ?_).symm
    intro left _ right _
    rfl
  have byKeys : ∀ left ∈ rows, ∀ right ∈ rows, compareRows left right =
      Sorting.compareByKeys (orderBy.map (scope.sortingKey naming)) left right :=
    fun left isLeft right isRight => compareKeys_eq kinds isLeft isRight
  rw [sorted, sorted,
    Sorting.mergeSort_eq_of_perm perm byKeys (List.mem_map_of_mem isOrder) apart]

end Sorting

section Answers

variable {catalog : Catalog} {source : Table} {key : Field} {query : Query}

/-- A plan that is answered has a filter that is judged on each row. -/
theorem truth_of_answer (sorts : plan.Sorts catalog source key query) {columns : List Column}
    (isScope : scope = [⟨naming.spell source.name, columns⟩]) {database : Database}
    (isTable : database.table (naming.spell source.name) = .ok ⟨columns, rows⟩)
    {statement : Select.Statement} (compiled : statementOfPlan naming plan = .ok statement)
    {answer : Rowset} (answered : database.answer statement = .ok answer) :
    ∀ predicate, plan.filter = some predicate → ∀ row ∈ rows,
      ∃ truth, scope.truth (condition naming predicate) row = .ok truth := by
  intro predicate isFilter
  obtain ⟨projections, _, same⟩ := Outcome.bind_eq_ok.mp compiled
  cases same
  rw [← sorts.reads] at isScope isTable
  refine Database.truth_of_answer ?_ isTable isScope answered ?_
  · exact List.map_eq_nil_iff.mpr sorts.joins
  · exact congrArg (Option.map (condition naming)) isFilter

/-- However the rows of a table are arranged, every window of a plan cuts the same list. -/
theorem answer_arranged (sorts : plan.Sorts catalog source key query) {columns : List Column}
    (isScope : scope = [⟨naming.spell source.name, columns⟩])
    (resolved : ∀ field ∈ plan.fields, ∃ found, scope.resolveField naming field = .ok found)
    (judged : ∀ predicate, plan.filter = some predicate → ∀ row ∈ rows,
      ∃ truth, scope.truth (condition naming predicate) row = .ok truth)
    (kinds : ∀ order ∈ plan.orderBy, ∃ kind : Kind, ∀ row ∈ rows,
      kind.Holds (scope.cellOf naming row order.field))
    (apart : ∀ left ∈ rows, ∀ right ∈ rows,
      (scope.cellOf naming left (.direct key source)).content? =
        (scope.cellOf naming right (.direct key source)).content? → left = right) :
    ∃ listed : List (List Cell), ∀ (database : Database) (arranged : List (List Cell))
      (offset limit : Option Nat), arranged.Perm rows →
      database.table (naming.spell source.name) = .ok ⟨columns, arranged⟩ →
      ∃ statement answer, statementOfPlan naming (plan.cut offset limit) = .ok statement ∧
        database.answer statement = .ok answer ∧ answer.rows = window offset limit listed := by
  obtain ⟨asked, isAsked⟩ := sorts.columns
  let sortKeys := plan.orderBy.map (sortKeyOfOrder naming)
  let row (cells : List Cell) := orderedBy asked plan.orderBy (scope.cellOf naming cells)
  refine ⟨(sortRows sortKeys ((scope.kept naming plan.filter rows).map row)).map
    OrderedRow.values, ?_⟩
  intro database arranged offset limit perm isTable
  have isAskedCut : (plan.cut offset limit).columns = asked.map .field := isAsked
  have compiled : statementOfPlan naming (plan.cut offset limit) =
      .ok (listing naming (plan.cut offset limit) asked) :=
    statementOfPlan_listing isAskedCut sorts.joins sorts.ungrouped
  have arrangedJudged : ∀ predicate, plan.filter = some predicate → ∀ row ∈ arranged,
      ∃ truth, scope.truth (condition naming predicate) row = .ok truth :=
    fun predicate isFilter row member =>
      judged predicate isFilter row (perm.mem_iff.mp member)
  have evaluated : ∀ row, ∀ field ∈ plan.fields,
      scope.evaluate row (columnOfField naming field) = .ok (scope.cellOf naming row field) := by
    intro row field member
    obtain ⟨found, isFound⟩ := resolved field member
    exact scope.evaluate_columnOfField isFound
  have typed : ∀ field ∈ asked, ∃ type, scope.typeOf (columnOfField naming field) = .ok type := by
    intro field member
    obtain ⟨found, isFound⟩ := resolved field (Plan.mem_fields_of_columns isAsked member)
    exact ⟨_, Outcome.bind_eq_ok.mpr ⟨_, isFound, rfl⟩⟩
  rw [← sorts.reads] at isTable isScope
  obtain ⟨answer, answered, areRows⟩ := Database.answer_listing (plan.cut offset limit) isTable
    isScope (Scope.filter_eq arrangedJudged) typed
    (fun row field member => evaluated row field (Plan.mem_fields_of_columns isAsked member))
    fun row order member => evaluated row order.field (Plan.mem_fields_of_order member)
  obtain ⟨decisive, isOrder, isKey⟩ := sorts.decided
  have sorted : sortRows sortKeys ((scope.kept naming plan.filter arranged).map row) =
      sortRows sortKeys ((scope.kept naming plan.filter rows).map row) := by
    refine Scope.sortRows_eq (Scope.kept_perm perm) ?_ isOrder ?_
    · intro order member
      obtain ⟨kind, holds⟩ := kinds order member
      exact ⟨kind, fun cells isKept => holds cells (Scope.mem_of_mem_kept isKept)⟩
    · intro left isLeft right isRight
      rw [isKey]
      exact apart left (Scope.mem_of_mem_kept isLeft) right (Scope.mem_of_mem_kept isRight)
  refine ⟨_, answer, compiled, answered, ?_⟩
  rw [areRows, window_map, ← sorted]
  rfl

end Answers

end CrossQuery.Relational
