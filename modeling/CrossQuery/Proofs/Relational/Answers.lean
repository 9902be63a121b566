import CrossQuery.Proofs.Relational.Filters
import CrossQuery.Relational.Answer

/-!
# Answers to statements on one table

The answer to a statement without joins, from what its clauses yield on the rows of its table.
-/

set_option autoImplicit false

namespace CrossQuery.Relational

variable {scope : Scope} {naming : Naming} {rows arranged : List (List Cell)}

section Filtering

theorem Scope.holding_map {α : Type} {records : List α} {row : α → List Cell}
    {condition : Select.Expression} {truth : α → Truth}
    (each : ∀ record ∈ records, scope.truth condition (row record) = .ok (truth record)) :
    scope.holding condition (records.map row) =
      .ok ((records.filter fun record => (truth record).holds).map row) := by
  induction records with
  | nil => rfl
  | cons record rest ih =>
      have first := each record List.mem_cons_self
      have others := ih fun other member => each other (List.mem_cons_of_mem _ member)
      rw [List.map_cons, holding, first, others, List.filter_cons, Outcome.ok_bind,
        Outcome.ok_bind]
      cases (truth record).holds <;> rfl

/-- A condition that some rows are held against has a truth on each of them. -/
theorem Scope.truth_of_holding {condition : Select.Expression} {kept : List (List Cell)}
    (run : scope.holding condition rows = .ok kept) :
    ∀ row ∈ rows, ∃ truth, scope.truth condition row = .ok truth := by
  induction rows generalizing kept with
  | nil => exact fun row member => absurd member List.not_mem_nil
  | cons row rest ih =>
      obtain ⟨truth, isTruth, run⟩ := Outcome.bind_eq_ok.mp run
      obtain ⟨others, restRun, _⟩ := Outcome.bind_eq_ok.mp run
      exact List.forall_mem_cons.mpr ⟨⟨truth, isTruth⟩, ih restRun⟩

/-- What a condition is on a row, as far as it can be judged. -/
def Scope.judgement (scope : Scope) (condition : Select.Expression) (row : List Cell) : Truth :=
  match scope.truth condition row with
  | .ok truth => truth
  | .error _ => .unknown

/-- The rows that pass a filter, of which the condition is judged on every row. -/
def Scope.kept (scope : Scope) (naming : Naming) (filter : Option Predicate)
    (rows : List (List Cell)) : List (List Cell) :=
  match filter with
  | none => rows
  | some predicate =>
    rows.filter fun row => (scope.judgement (condition naming predicate) row).holds

theorem Scope.filter_eq {filter : Option Predicate}
    (judged : ∀ predicate, filter = some predicate → ∀ row ∈ rows,
      ∃ truth, scope.truth (condition naming predicate) row = .ok truth) :
    scope.filter (filter.map (condition naming)) rows = .ok (scope.kept naming filter rows) := by
  cases filter with
  | none => rfl
  | some predicate =>
      have each : ∀ row ∈ rows, scope.truth (condition naming predicate) (id row) =
          .ok (scope.judgement (condition naming predicate) row) := by
        intro row member
        obtain ⟨truth, isTruth⟩ := judged predicate rfl row member
        rw [judgement, id, isTruth]
      have held := holding_map each
      rw [List.map_id, List.map_id] at held
      exact held

theorem Scope.kept_perm {filter : Option Predicate} (perm : arranged.Perm rows) :
    (scope.kept naming filter arranged).Perm (scope.kept naming filter rows) := by
  cases filter with
  | none => exact perm
  | some predicate => exact perm.filter _

theorem Scope.mem_of_mem_kept {filter : Option Predicate} {row : List Cell}
    (member : row ∈ scope.kept naming filter rows) : row ∈ rows := by
  cases filter with
  | none => exact member
  | some predicate => exact (List.mem_filter.mp member).1

end Filtering

section Cutting

variable {α β : Type} {offset limit : Option Nat}

theorem window_map (change : α → β) (items : List α) :
    window offset limit (items.map change) =
      (window offset limit items).map change := by
  cases limit <;> simp [window, List.map_drop, List.map_take]

theorem mem_of_mem_window {items : List α} {item : α}
    (member : item ∈ window offset limit items) : item ∈ items := by
  cases limit with
  | none => exact List.mem_of_mem_drop member
  | some most => exact List.mem_of_mem_drop (List.mem_of_mem_take member)

end Cutting

section Clauses

/-- The answer to a statement without joins, from what its clauses yield. -/
theorem Database.answer_of_clauses {database : Database}
    (statement : Select.Statement) {table : Rowset} {rows : List (List Cell)}
    {columns : List Column} {ordered : List OrderedRow} {scope : Scope}
    (noJoins : statement.joins = [])
    (found : database.table statement.source.name = .ok table)
    (isScope : scope = [⟨statement.source.binding, table.columns⟩])
    (filtered : scope.filter statement.filter table.rows = .ok rows)
    (described : statement.projections.mapM scope.columnOf = .ok columns)
    (answered : Joined.answerRows ⟨scope, table.rows⟩ statement rows = .ok ordered) :
    database.answer statement =
      .ok ⟨columns, (window statement.offset statement.limit
        (sortRows statement.orderBy ordered)).map OrderedRow.values⟩ := by
  subst isScope
  simp [Database.answer, Database.source, noJoins, found, filtered,
    described, answered]

/-- A filter whose statement is answered has a truth on each row of the table. -/
theorem Database.truth_of_answer {database : Database} {statement : Select.Statement}
    {table answer : Rowset} {scope : Scope} (noJoins : statement.joins = [])
    (found : database.table statement.source.name = .ok table)
    (isScope : scope = [⟨statement.source.binding, table.columns⟩])
    (answered : database.answer statement = .ok answer) {condition : Select.Expression}
    (isFilter : statement.filter = some condition) :
    ∀ row ∈ table.rows, ∃ truth, scope.truth condition row = .ok truth := by
  subst isScope
  have joined : database.source statement =
      .ok ⟨[⟨statement.source.binding, table.columns⟩], table.rows⟩ := by
    rw [Database.source, found, noJoins]
    rfl
  rw [Database.answer, joined, Outcome.ok_bind, isFilter] at answered
  obtain ⟨kept, run, _⟩ := Outcome.bind_eq_ok.mp answered
  exact Scope.truth_of_holding run

end Clauses

section Listing

variable {plan : Plan} {asked : List PlanField} {value : List Cell → PlanField → Cell}

/-- The statement of a plan that lists fields of one table. -/
def listing (naming : Naming) (plan : Plan) (asked : List PlanField) : Select.Statement :=
  { projections := asked.map fun field => ⟨columnOfField naming field,
      some ((Capabilities.relational naming).columnName (.field field))⟩
    source := ⟨naming.spell plan.source.name, none⟩
    joins := []
    filter := plan.filter.map (condition naming)
    groupBy := []
    orderBy := plan.orderBy.map (sortKeyOfOrder naming)
    limit := plan.limit
    offset := plan.offset }

theorem statementOfPlan_listing (isAsked : plan.columns = asked.map .field)
    (noJoins : plan.joins = []) (ungrouped : plan.breakout = []) :
    statementOfPlan naming plan = .ok (listing naming plan asked) := by
  have projected : plan.columns.mapM (projectionOfColumn naming) =
      .ok (asked.map fun field => ⟨columnOfField naming field,
        some ((Capabilities.relational naming).columnName (.field field))⟩) := by
    rw [isAsked, List.mapM_map]
    exact Outcome.mapM_eq_ok_map fun field _ => rfl
  simp [statementOfPlan, projected, noJoins, ungrouped, listing]

/-- A row with the values that are asked for and those that it is sorted by. -/
def orderedBy (asked : List PlanField) (orderBy : List PlanOrder) (value : PlanField → Cell) :
    OrderedRow :=
  ⟨asked.map value, orderBy.map fun order => value order.field⟩

theorem orderedRow_listing {evaluate : Select.Expression → Except Refusal Cell}
    {value : PlanField → Cell}
    (asks : ∀ field ∈ asked, evaluate (columnOfField naming field) = .ok (value field))
    (orders : ∀ order ∈ plan.orderBy,
      evaluate (columnOfField naming order.field) = .ok (value order.field)) :
    orderedRow (listing naming plan asked) evaluate = .ok (orderedBy asked plan.orderBy value) := by
  have values : (listing naming plan asked).projections.mapM
      (fun projection => evaluate projection.expression) = .ok (asked.map value) := by
    rw [listing, List.mapM_map]
    exact Outcome.mapM_eq_ok_map asks
  rw [orderedRow, values, Outcome.ok_bind, listing, List.mapM_map]
  exact Outcome.bind_eq_ok.mpr ⟨_, Outcome.mapM_eq_ok_map orders, rfl⟩

/-- The answer to the statement of a listing, from the rows that pass its filter. -/
theorem Database.answer_listing {database : Database} (plan : Plan) {columns : List Column}
    {kept : List (List Cell)}
    (isTable : database.table (naming.spell plan.source.name) = .ok ⟨columns, rows⟩)
    (isScope : scope = [⟨naming.spell plan.source.name, columns⟩])
    (filtered : scope.filter (plan.filter.map (condition naming)) rows = .ok kept)
    (typed : ∀ field ∈ asked, ∃ type, scope.typeOf (columnOfField naming field) = .ok type)
    (asks : ∀ row, ∀ field ∈ asked,
      scope.evaluate row (columnOfField naming field) = .ok (value row field))
    (orders : ∀ row, ∀ order ∈ plan.orderBy,
      scope.evaluate row (columnOfField naming order.field) = .ok (value row order.field)) :
    ∃ answer, database.answer (listing naming plan asked) = .ok answer ∧
      answer.rows = (window plan.offset plan.limit
        (sortRows (plan.orderBy.map (sortKeyOfOrder naming))
          (kept.map fun row => orderedBy asked plan.orderBy (value row)))).map
            OrderedRow.values := by
  have described : ∀ projection ∈ (listing naming plan asked).projections,
      ∃ column, scope.columnOf projection = .ok column := by
    intro projection member
    obtain ⟨field, isField, rfl⟩ := List.mem_map.mp member
    obtain ⟨type, isType⟩ := typed field isField
    exact ⟨_, Outcome.bind_eq_ok.mpr ⟨type, isType, rfl⟩⟩
  obtain ⟨described, isDescribed⟩ := Outcome.exists_mapM described
  have notAggregate : (listing naming plan asked).isAggregate = false := by
    simp [Select.Statement.isAggregate, listing, columnOfField, Select.Expression.hasAggregate]
  have answered : Joined.answerRows ⟨scope, rows⟩ (listing naming plan asked) kept =
      .ok (kept.map fun row => orderedBy asked plan.orderBy (value row)) := by
    rw [Joined.answerRows, notAggregate]
    exact Outcome.mapM_eq_ok_map fun row _ => orderedRow_listing (asks row) (orders row)
  exact ⟨_, answer_of_clauses _ rfl isTable isScope filtered isDescribed answered, rfl⟩

end Listing

end CrossQuery.Relational
