import CrossQuery.Engine.Store
import CrossQuery.Proofs.Agreement.Groups
import CrossQuery.Proofs.Plan.Rendered
import CrossQuery.Proofs.Plan.Values
import CrossQuery.Proofs.Relational.Grouped
import CrossQuery.Proofs.Relational.Reread

/-!
# Statements that are answered

A database answers the statement of a plan on a table that keeps values of the kinds of its fields,
if the filter compares them with values of these kinds and no sum of integers leaves 64 bits. The
statement is answered as its text is read.
-/

set_option autoImplicit false

namespace CrossQuery

namespace Relational

open Select

/-- The groups that a statement makes of the rows that pass its filter, with the tables that the
rows are made of. -/
def Database.groups (database : Database) (statement : Statement) :
    Except Refusal (Scope × List Group) := do
  let joined ← database.source statement
  let kept ← joined.scope.filter statement.filter joined.rows
  let groups ← joined.scope.group statement.groupBy kept
  return (joined.scope, groups)

/-- The integers of an expression in a group, in the order of the rows. -/
def Group.summands (scope : Scope) (group : Group) (expression : Expression) :
    Except Refusal (List Int) := do
  return integersOf (← group.rows.mapM fun row => scope.evaluate row expression)

/-- What the database has of a table: where its columns stand, and rows of values of their kinds. -/
structure Stocked (database : Database) (source : Table) (columns : List Column)
    (rows : List (List Cell)) (known : List PlanField) : Prop where
  table : database.table (Naming.upperCase.spell source.name) = .ok ⟨columns, rows⟩
  resolved : ∀ field ∈ known, ∃ found,
    (scopeOf source columns).resolveField .upperCase field = .ok found
  keeps : ∀ row ∈ rows, ∀ field ∈ known,
    field.field.baseType.Keeps ((scopeOf source columns).cellOf .upperCase row field)

section Filter

variable {scope : Scope} {rows : List (List Cell)}

theorem Scope.exists_holding {condition : Expression}
    (each : ∀ row ∈ rows, ∃ truth, scope.truth condition row = .ok truth) :
    ∃ kept, scope.holding condition rows = .ok kept ∧ List.Sublist kept rows := by
  induction rows with
  | nil => exact ⟨[], rfl, .slnil⟩
  | cons row rest ih =>
      obtain ⟨truth, isTruth⟩ := each row List.mem_cons_self
      obtain ⟨kept, run, areRows⟩ := ih fun other later => each other (List.mem_cons_of_mem _ later)
      rw [holding, isTruth, Outcome.ok_bind, run, Outcome.ok_bind]
      cases truth.holds with
      | false => exact ⟨kept, rfl, .cons _ areRows⟩
      | true => exact ⟨row :: kept, rfl, .cons_cons _ areRows⟩

variable {database : Database} {source : Table} {columns : List Column} {known : List PlanField}

theorem Stocked.evaluate (stocked : Stocked database source columns rows known) {field : PlanField}
    (isKnown : field ∈ known) (row : List Cell) :
    (scopeOf source columns).evaluate row (columnOfField .upperCase field) =
      .ok ((scopeOf source columns).cellOf .upperCase row field) := by
  obtain ⟨found, isFound⟩ := stocked.resolved field isKnown
  exact Scope.evaluate_columnOfField isFound

theorem Stocked.exists_typeOf (stocked : Stocked database source columns rows known)
    {field : PlanField} (isKnown : field ∈ known) :
    ∃ type, (scopeOf source columns).typeOf (columnOfField .upperCase field) = .ok type := by
  obtain ⟨found, isFound⟩ := stocked.resolved field isKnown
  rw [Scope.resolveField] at isFound
  rw [columnOfField, Scope.typeOf, isFound]
  exact ⟨_, rfl⟩

theorem Stocked.exists_filter (stocked : Stocked database source columns rows known)
    {filter : Option Predicate} (typed : ∀ predicate ∈ filter, predicate.Typed)
    (areKnown : ∀ predicate ∈ filter, ∀ field ∈ predicate.fields, field ∈ known) :
    ∃ kept, (scopeOf source columns).filter
        ((filter.map (condition .upperCase)).map Expression.reread) rows = .ok kept ∧
      List.Sublist kept rows := by
  cases filter with
  | none => exact ⟨rows, rfl, .refl rows⟩
  | some predicate =>
      refine Scope.exists_holding fun row isRow => ?_
      obtain ⟨truth, evaluated⟩ := (typed predicate rfl).judges fun field tested =>
        have isKnown := areKnown predicate rfl field tested
        ⟨_, stocked.evaluate isKnown row, stocked.keeps row isRow field isKnown⟩
      refine ⟨truth, ?_⟩
      rw [Scope.truth, evaluated, Outcome.ok_bind, truthOfCell_cellOfTruth]

end Filter

section Answer

variable {statement : Statement} {evaluate : Expression → Except Refusal Cell}

theorem exists_orderedRow
    (values : ∀ projection ∈ statement.projections,
      ∃ value, evaluate projection.expression = .ok value)
    (keys : ∀ key ∈ statement.orderBy, ∃ value, evaluate key.expression = .ok value) :
    ∃ row, orderedRow statement evaluate = .ok row := by
  obtain ⟨made, areValues⟩ := Outcome.exists_mapM values
  rw [orderedRow, areValues, Outcome.ok_bind]
  refine Outcome.exists_bind (Outcome.exists_mapM fun key member => ?_) fun sorted => ⟨_, rfl⟩
  cases projectedKey? statement made key.expression with
  | some value => exact ⟨value, rfl⟩
  | none => exact keys key member

theorem length_values_of_orderedRow {row : OrderedRow}
    (made : orderedRow statement evaluate = .ok row) :
    row.values.length = statement.projections.length := by
  obtain ⟨values, areValues, rest⟩ := Outcome.bind_eq_ok.mp made
  obtain ⟨keys, _, same⟩ := Outcome.bind_eq_ok.mp rest
  obtain rfl := Except.ok.inj same
  simpa using (congrArg List.length (Outcome.mapM_eq_ok_iff.mp areValues)).symm

theorem length_values_of_answerRows {joined : Joined} {kept : List (List Cell)}
    {ordered : List OrderedRow} (answered : joined.answerRows statement kept = .ok ordered) :
    ∀ row ∈ ordered, row.values.length = statement.projections.length := by
  intro row member
  unfold Joined.answerRows at answered
  split at answered
  · obtain ⟨groups, _, made⟩ := Outcome.bind_eq_ok.mp answered
    obtain ⟨group, _, isRow⟩ := Outcome.exists_of_mem_mapM made member
    exact length_values_of_orderedRow isRow
  · obtain ⟨cells, _, isRow⟩ := Outcome.exists_of_mem_mapM answered member
    exact length_values_of_orderedRow isRow

theorem Database.exists_answer {database : Database} {table : Rowset} {scope : Scope}
    {kept : List (List Cell)} {ordered : List OrderedRow} (noJoins : statement.joins = [])
    (found : database.table statement.source.name = .ok table)
    (isScope : scope = [⟨statement.source.binding, table.columns⟩])
    (filtered : scope.filter statement.filter table.rows = .ok kept)
    (typed : ∀ projection ∈ statement.projections,
      ∃ type, scope.typeOf projection.expression = .ok type)
    (answered : Joined.answerRows ⟨scope, table.rows⟩ statement kept = .ok ordered) :
    ∃ answer, database.answer statement = .ok answer ∧
      answer.columns.map Column.name = statement.projections.map (fun projection =>
        projection.givenName.getD (defaultName projection.expression)) ∧
      ∀ row ∈ answer.rows, row.length = statement.projections.length := by
  have described : ∀ projection ∈ statement.projections, ∃ column,
      scope.columnOf projection = .ok column ∧
        column.name = projection.givenName.getD (defaultName projection.expression) := by
    intro projection member
    obtain ⟨type, isType⟩ := typed projection member
    exact ⟨_, Outcome.bind_eq_ok.mpr ⟨type, isType, rfl⟩, rfl⟩
  obtain ⟨columns, areColumns, names⟩ := Outcome.exists_mapM_eq_ok described
  refine ⟨_, answer_of_clauses statement noJoins found isScope filtered areColumns answered, names,
    fun row member => ?_⟩
  obtain ⟨made, isMade, rfl⟩ := List.mem_map.mp member
  exact length_values_of_answerRows answered made
    (List.mem_mergeSort.mp (mem_of_mem_window isMade))

end Answer

section Sums

variable {cells : List Cell}

/-- Integers are added up if the sum fits 64 bits behind each of them. -/
theorem exists_sumIntegers {values : List Int} {total : Int}
    (fits : ∀ part, part <+: values → Cell.fitsInt64 (total + part.sum) = true) :
    ∃ sum, sumIntegers total values = .ok sum := by
  -- The total so far is generalised: a prefix of the rest continues one that was checked before.
  induction values generalizing total with
  | nil => exact ⟨total, rfl⟩
  | cons value rest ih =>
      have first := fits [value] ⟨rest, rfl⟩
      rw [List.sum_singleton] at first
      rw [sumIntegers, if_pos first]
      refine ih fun part isPrefix => ?_
      have whole := fits (value :: part) (List.cons_prefix_cons.mpr ⟨rfl, isPrefix⟩)
      rwa [List.sum_cons, ← Int.add_assoc] at whole

theorem exists_sumFloats (numbers : ∀ cell ∈ cells, ∃ number, cell.number? = some number)
    (total : Float) : ∃ sum, sumFloats total cells = .ok sum := by
  induction cells generalizing total with
  | nil => exact ⟨total, rfl⟩
  | cons cell rest ih =>
      obtain ⟨number, isNumber⟩ := numbers cell List.mem_cons_self
      rw [sumFloats, isNumber]
      exact ih (fun other member => numbers other (List.mem_cons_of_mem _ member)) _

theorem allIntegers_of_integers? {values : List Int} (areIntegers : integers? cells = some values) :
    AllIntegers cells := by
  induction cells generalizing values with
  | nil => exact fun cell member => absurd member List.not_mem_nil
  | cons cell rest ih =>
      rw [integers?, List.mapM_cons] at areIntegers
      obtain ⟨value, isInteger, others⟩ := Option.bind_eq_some_iff.mp areIntegers
      obtain ⟨restValues, areRest, _⟩ := Option.bind_eq_some_iff.mp others
      exact List.forall_mem_cons.mpr ⟨⟨value, isInteger⟩, ih areRest⟩

/-- Some of the integers among cells have a sum within the absolute values of the cells. -/
theorem natAbs_sum_le_magnitude {values : List Int}
    (areIntegers : List.Sublist values (integersOf cells)) :
    values.sum.natAbs ≤ magnitude cells := by
  induction cells generalizing values with
  | nil =>
      obtain rfl := List.sublist_nil.mp areIntegers
      exact Nat.le_refl _
  | cons cell rest ih =>
      cases isInteger : cell.integer? with
      | none =>
          rw [integersOf, List.filterMap_cons, isInteger] at areIntegers
          have others := ih areIntegers
          simp only [magnitude, List.map_cons, List.sum_cons] at others ⊢
          omega
      | some value =>
          rw [integersOf_cons isInteger] at areIntegers
          rw [magnitude_cons isInteger]
          cases areIntegers with
          | cons _ later => exact (ih later).trans (Nat.le_add_left _ _)
          | cons_cons _ later =>
              have others := ih later
              rw [List.sum_cons]
              omega

/-- A sum is null or a number. -/
inductive IsSum : Cell → Prop where
  | null : IsSum .null
  | integer (value : Int64) : IsSum (.int64 value)
  | float (value : Float) : IsSum (.float64 value)

theorem exists_sum (numbers : ∀ cell ∈ cells, ∃ number, cell.number? = some number)
    (fits : ∀ part, part <+: integersOf cells → Cell.fitsInt64 part.sum = true) :
    ∃ total, sum cells = .ok total ∧ IsSum total := by
  unfold sum
  split
  · exact ⟨.null, rfl, .null⟩
  · split
    · next values areIntegers =>
        have all := allIntegers_of_integers? areIntegers
        obtain rfl := Option.some.inj (areIntegers.symm.trans (integers?_eq all))
        have fitsFromZero : ∀ part, part <+: integersOf cells →
            Cell.fitsInt64 (0 + part.sum) = true := by
          intro part isPrefix
          rw [Int.zero_add]
          exact fits part isPrefix
        obtain ⟨total, added⟩ := exists_sumIntegers fitsFromZero
        exact ⟨_, Outcome.bind_eq_ok.mpr ⟨total, added, rfl⟩, .integer _⟩
    · obtain ⟨total, added⟩ := exists_sumFloats numbers 0
      exact ⟨_, Outcome.bind_eq_ok.mpr ⟨total, added, rfl⟩, .float _⟩

theorem IsSum.exists_convert {total : Cell} (isSum : IsSum total) (type : BaseType) :
    ∃ converted, convert total (sumType type) = .ok converted := by
  cases isSum <;> cases type <;> exact ⟨_, rfl⟩

theorem exists_average (numbers : ∀ cell ∈ cells, ∃ number, cell.number? = some number)
    (fits : ∀ part, part <+: integersOf cells → Cell.fitsInt64 part.sum = true) :
    ∃ mean, average cells = .ok mean ∧ IsSum mean := by
  obtain ⟨total, added, isSum⟩ := exists_sum numbers fits
  rw [average, added, Outcome.ok_bind]
  cases total.number? with
  | none => exact ⟨.null, rfl, .null⟩
  | some value => exact ⟨_, rfl, .float _⟩

end Sums

section Groups

variable {database : Database} {source : Table} {columns : List Column} {rows : List (List Cell)}
  {known breakout : List PlanField} {group : Group} {field : PlanField}

theorem exists_keyOf? {scope : Scope} {naming : Naming} (row : List Cell)
    (isBreakout : field ∈ breakout) (members : List (List Cell)) :
    ∃ key, (Group.mk (scope.cellsOf naming breakout row) members).keyOf?
      (breakout.map (columnOfField naming)) (columnOfField naming field) = some key := by
  have member : (columnOfField naming field, scope.cellOf naming row field) ∈
      (breakout.map (columnOfField naming)).zip (scope.cellsOf naming breakout row) := by
    rw [Scope.cellsOf, List.zip_map']
    exact List.mem_map_of_mem isBreakout
  have itself : (columnOfField naming field).same (columnOfField naming field) = true := by
    simp [columnOfField, Expression.same]
  refine Option.isSome_iff_exists.mp (List.findSome?_isSome_iff.mpr ⟨_, member, ?_⟩)
  rw [if_pos itself]
  rfl

theorem exists_evaluate_key {scope : Scope} {naming : Naming} {groupBy : List Expression}
    (isKey : ∃ key, group.keyOf? groupBy (columnOfField naming field) = some key) :
    ∃ value, group.evaluate scope groupBy (columnOfField naming field) = .ok value := by
  obtain ⟨key, isKey⟩ := isKey
  rw [columnOfField] at isKey ⊢
  rw [Group.evaluate, Group.keyOr, isKey]
  exact ⟨key, rfl⟩

/-- The cells of a field in the rows of a group. -/
def Group.cellsOf (scope : Scope) (group : Group) (field : PlanField) : List Cell :=
  group.rows.map fun row => scope.cellOf .upperCase row field

theorem Stocked.values_of_column (stocked : Stocked database source columns rows known)
    (isKnown : field ∈ known) (group : Group) :
    group.rows.mapM (fun row =>
        (scopeOf source columns).evaluate row (columnOfField .upperCase field)) =
      .ok (group.cellsOf (scopeOf source columns) field) :=
  Outcome.mapM_eq_ok_map fun row _ => stocked.evaluate isKnown row

theorem Stocked.aggregate_column (stocked : Stocked database source columns rows known)
    (isKnown : field ∈ known) (group : Group) (name : String) (distinct : Bool) :
    group.aggregate (scopeOf source columns) name [columnOfField .upperCase field] distinct =
      summarise name
        (if distinct then
          Grouping.firsts Cell.groupKey
            (presentCells (group.cellsOf (scopeOf source columns) field))
        else presentCells (group.cellsOf (scopeOf source columns) field)) := by
  have notWildcard : (columnOfField .upperCase field).same .wildcard = false := rfl
  rw [Group.aggregate, notWildcard, if_neg (by simp), stocked.values_of_column isKnown]
  rfl

theorem Stocked.summands_eq (stocked : Stocked database source columns rows known)
    (isKnown : field ∈ known) (group : Group) :
    group.summands (scopeOf source columns) (columnOfField .upperCase field) =
      .ok (integersOf (group.cellsOf (scopeOf source columns) field)) := by
  rw [Group.summands, stocked.values_of_column isKnown]
  rfl

theorem Stocked.numbers (stocked : Stocked database source columns rows known)
    (isKnown : field ∈ known) (isNumeric : field.field.baseType.isNumeric = true)
    (areRows : ∀ row ∈ group.rows, row ∈ rows) :
    ∀ cell ∈ presentCells (group.cellsOf (scopeOf source columns) field),
      ∃ number, cell.number? = some number := by
  intro cell member
  obtain ⟨isCell, present⟩ := List.mem_filter.mp member
  obtain ⟨row, isRow, rfl⟩ := List.mem_map.mp isCell
  rcases (stocked.keeps row (areRows row isRow) field isKnown).null_or_numeric isNumeric with
    isNull | ⟨number, isNumber, _⟩
  · rw [isNull] at present
    cases present
  · exact ⟨number, isNumber⟩

/-- An aggregate of a group of rows is computed if its sum fits 64 bits behind each of them. -/
theorem Stocked.exists_aggregate (stocked : Stocked database source columns rows known)
    {kind : AggregateKind} {of : Option PlanField} {expression : Expression}
    (compiled : aggregateExpression .upperCase kind of = .ok expression)
    (areKnown : ∀ field, of = some field → field ∈ known)
    (numeric : kind = .sum ∨ kind = .average →
      ∀ field, of = some field → field.field.baseType.isNumeric = true)
    (areRows : ∀ row ∈ group.rows, row ∈ rows)
    (fits : kind = .sum ∨ kind = .average → ∀ field, of = some field →
      ∀ part, part <+: integersOf (group.cellsOf (scopeOf source columns) field) →
        Cell.fitsInt64 part.sum = true) :
    ∃ value, group.evaluate (scopeOf source columns)
      (breakout.map (columnOfField .upperCase)) expression = .ok value := by
  -- Counts have a value on whatever rows. Sums and averages are converted to a fixed type, which
  -- takes a null and every number that a sum can be.
  cases of with
  | none =>
      cases kind <;> cases compiled
      rw [evaluate_aggregate]
      exact ⟨_, rfl⟩
  | some field =>
      have isKnown := areKnown field rfl
      cases kind with
      | count =>
          cases compiled
          rw [evaluate_aggregate]
          exact ⟨_, rfl⟩
      | distinct =>
          cases compiled
          rw [evaluate_aggregate, stocked.aggregate_column isKnown]
          exact ⟨_, rfl⟩
      | sum =>
          cases compiled
          have numbers := stocked.numbers isKnown (numeric (.inl rfl) field rfl) areRows
          have fit := fits (.inl rfl) field rfl
          rw [← integersOf_presentCells] at fit
          obtain ⟨total, added, isSum⟩ := exists_sum numbers fit
          obtain ⟨converted, isConverted⟩ := isSum.exists_convert field.field.baseType
          rw [evaluate_cast, evaluate_aggregate, stocked.aggregate_column isKnown]
          exact ⟨converted, Outcome.bind_eq_ok.mpr ⟨total, added, isConverted⟩⟩
      | average =>
          cases compiled
          have numbers := stocked.numbers isKnown (numeric (.inr rfl) field rfl) areRows
          have fit := fits (.inr rfl) field rfl
          rw [← integersOf_presentCells] at fit
          obtain ⟨mean, averaged, isSum⟩ := exists_average numbers fit
          obtain ⟨converted, isConverted⟩ := isSum.exists_convert .float
          rw [evaluate_cast, evaluate_aggregate, stocked.aggregate_column isKnown]
          exact ⟨converted, Outcome.bind_eq_ok.mpr ⟨mean, averaged, isConverted⟩⟩

/-- Rows are put into groups, each of which has a value of every field that they are grouped by. -/
theorem Stocked.exists_group (stocked : Stocked database source columns rows known)
    (areKnown : ∀ field ∈ breakout, field ∈ known) (kept : List (List Cell)) :
    ∃ groups, (scopeOf source columns).group (breakout.map (columnOfField .upperCase)) kept =
        .ok groups ∧
      ∀ group ∈ groups, List.Sublist group.rows kept ∧
        ∀ field ∈ breakout, ∃ key,
          group.keyOf? (breakout.map (columnOfField .upperCase)) (columnOfField .upperCase field) =
            some key := by
  cases isBreakout : breakout with
  | nil =>
      refine ⟨[⟨[], kept⟩], rfl, fun group member => ?_⟩
      obtain rfl := List.mem_singleton.mp member
      exact ⟨.refl kept, fun field isField => absurd isField List.not_mem_nil⟩
  | cons first rest =>
      rw [← isBreakout]
      have someField : breakout ≠ [] := by
        rw [isBreakout]
        exact List.cons_ne_nil _ _
      refine ⟨_, Scope.group_columns someField
        (fun field member => stocked.resolved field (areKnown field member)) kept, ?_⟩
      intro group member
      obtain ⟨⟨row, members⟩, isGroup, rfl⟩ := List.mem_map.mp member
      exact ⟨(Grouping.members_of_mem_groups isGroup).2,
        fun field isField => exists_keyOf? row isField members⟩

end Groups

section Written

variable {statement : Statement} {fits : Literal → Prop}

/-- A statement with the constants of its filter as they are read. -/
def refiltered (statement : Statement) : Statement :=
  { statement with filter := statement.filter.map Expression.reread }

/-- Of the statement of a plan only the constants of the filter are read as others. -/
theorem reread_statementOfPlan {naming : Naming} {plan : Plan}
    (written : statementOfPlan naming plan = .ok statement) (planned : statement.Planned fits) :
    statement.reread = refiltered statement := by
  have projections : statement.reread.projections = statement.projections := by
    refine (List.map_congr_left fun projection member => ?_).trans (List.map_id _)
    rw [(planned.projected projection member).reread_eq.1]
    rfl
  have joins : statement.reread.joins = statement.joins := by
    obtain ⟨_, _, same⟩ := Outcome.bind_eq_ok.mp written
    cases same
    exact List.map_map
  have groups : statement.reread.groupBy = statement.groupBy :=
    (List.map_congr_left fun key member => (planned.grouped key member).reread_eq.1).trans
      (List.map_id _)
  have order : statement.reread.orderBy = statement.orderBy := by
    refine (List.map_congr_left fun key member => ?_).trans (List.map_id _)
    rw [(planned.ordered key member).reread_eq.1]
    rfl
  rw [Statement.reread, refiltered, Statement.mk.injEq]
  exact ⟨projections, rfl, joins, rfl, groups, order, rfl, rfl⟩

theorem operand_of_accepts {type : BaseType} {value : Cell} (accepted : type.Accepts value) :
    (constantOfCell value).Operand fun _ => True := by
  cases accepted with
  | integer => exact .integer trivial
  | float _ isFinite => exact .float trivial isFinite
  | text => exact .text
  | boolean => exact .boolean
  | date => exact .moment (by decide)
  | timestamp => exact .moment (by decide)

theorem operand_of_expressible {cell : Cell} (expressible : cell.Expressible) :
    (constantOfCell cell).Operand fun _ => True := by
  cases cell with
  | null => exact .null
  | bool value => exact .boolean
  | int16 value => exact .integer trivial
  | int32 value => exact .integer trivial
  | int64 value => exact .integer trivial
  | float32 value => exact absurd rfl (expressible.wide value)
  | float64 value => exact .float trivial (expressible.finite value rfl)
  | date value => exact .moment (by decide)
  | timestamp value => exact .moment (by decide)
  | _ => exact .text

/-- A database answers a plan as it answers the statement that the text is read as. -/
theorem Database.answerPlan_of_planned {naming : Naming} {plan : Plan}
    (written : statementOfPlan naming plan = .ok statement) (planned : statement.Planned fits)
    (database : Database) :
    database.answerPlan naming plan =
      .ok ((database.answer statement.reread).mapError Refusal.failure) := by
  rw [Database.answerPlan, written, Outcome.ok_bind, Database.execute, planned.parse_write_reread]
  rfl

theorem givenNames_statementOfPlan {naming : Naming} {plan : Plan}
    (written : statementOfPlan naming plan = .ok statement) :
    statement.projections.map (fun projection =>
        projection.givenName.getD (defaultName projection.expression)) =
      plan.columns.map (Capabilities.relational naming).columnName := by
  obtain ⟨projections, projected, same⟩ := Outcome.bind_eq_ok.mp written
  cases same
  refine Outcome.map_eq_map_of_mapM projected fun column _ projection isProjection => ?_
  cases column with
  | field => cases isProjection; rfl
  | aggregate =>
      rw [projectionOfColumn] at isProjection
      obtain ⟨expression, _, same⟩ := Outcome.bind_eq_ok.mp isProjection
      cases same
      rfl

end Written

end Relational

namespace Plan

open Relational Select

/-- No sum of integers that the plan computes leaves 64 bits, in whatever group and up to whatever
row. -/
def SumsFit (plan : Plan) (database : Database) : Prop :=
  ∀ kind field, plan.aggregate? = some (kind, some field) → kind = .sum ∨ kind = .average →
    ∀ written parsed, statementOfPlan .upperCase plan = .ok written →
      Statement.parse written.write = .ok parsed →
      ∀ scope groups, database.groups parsed = .ok (scope, groups) →
        ∀ group ∈ groups, ∀ summands,
          group.summands scope (columnOfField .upperCase field) = .ok summands →
          ∀ part, part <+: summands → Cell.fitsInt64 part.sum = true

/-- What holds of a plan on one table that the database is asked for. -/
structure Asks (plan : Plan) (database : Database) (columns : List Column)
    (rows : List (List Cell)) (known : List PlanField) : Prop where
  stocked : Stocked database plan.source columns rows known
  fields : ∀ field ∈ plan.fields, field ∈ known
  joins : plan.joins = []
  columns : plan.columns ≠ []
  typed : ∀ predicate ∈ plan.filter, predicate.Typed
  limit : ∀ count ∈ plan.limit, count < 2 ^ 64
  offset : ∀ count ∈ plan.offset, count < 2 ^ 64

variable {plan : Plan} {database : Database} {columns : List Column} {rows : List (List Cell)}
  {known : List PlanField} {statement : Statement}

theorem Asks.planned (asks : plan.Asks database columns rows known)
    (written : statementOfPlan .upperCase plan = .ok statement) :
    statement.Planned fun _ => True := by
  refine planned_of_operands written asks.columns (fun predicate isFilter cell compared => ?_)
    asks.limit asks.offset
  obtain ⟨type, accepted⟩ := (asks.typed predicate isFilter).values_accepted cell compared
  exact operand_of_accepts accepted

/-- The statement is read as itself with a filter of other constants. -/
theorem Asks.parse_write (asks : plan.Asks database columns rows known)
    (written : statementOfPlan .upperCase plan = .ok statement) :
    Statement.parse statement.write = .ok (refiltered statement) := by
  have planned := asks.planned written
  rw [planned.parse_write_reread, reread_statementOfPlan written planned]

theorem Asks.exists_filter (asks : plan.Asks database columns rows known) :
    ∃ kept, (scopeOf plan.source columns).filter
        ((plan.filter.map (condition .upperCase)).map Expression.reread) rows = .ok kept ∧
      List.Sublist kept rows :=
  asks.stocked.exists_filter asks.typed fun _ isFilter field tested =>
    asks.fields field (mem_fields_of_filter isFilter tested)

theorem Asks.exists_answerPlan (asks : plan.Asks database columns rows known)
    (written : statementOfPlan .upperCase plan = .ok statement)
    (answered : ∃ answer, database.answer (refiltered statement) = .ok answer ∧
        answer.columns.map Column.name = statement.projections.map (fun projection =>
          projection.givenName.getD (defaultName projection.expression)) ∧
        ∀ row ∈ answer.rows, row.length = statement.projections.length) :
    ∃ rowset, database.answerPlan .upperCase plan = .ok (.ok rowset) ∧
      plan.Tabulates (.relational .upperCase) rowset := by
  obtain ⟨answer, isAnswer, names, widths⟩ := answered
  have sameNames := givenNames_statementOfPlan written
  have sameLength : statement.projections.length = plan.columns.length := by
    simpa using congrArg List.length sameNames
  refine ⟨answer, ?_, names.trans sameNames, fun row member => sameLength ▸ widths row member⟩
  have planned := asks.planned written
  rw [Database.answerPlan_of_planned written planned, reread_statementOfPlan written planned,
    isAnswer]
  rfl

theorem Asks.answers_listing (asks : plan.Asks database columns rows known)
    {asked : List PlanField} (isColumns : plan.columns = asked.map .field)
    (ungrouped : plan.breakout = []) :
    ∃ rowset, database.answerPlan .upperCase plan = .ok (.ok rowset) ∧
      plan.Tabulates (.relational .upperCase) rowset := by
  have stocked := asks.stocked
  have written : statementOfPlan .upperCase plan = .ok (listing .upperCase plan asked) :=
    statementOfPlan_listing isColumns asks.joins ungrouped
  obtain ⟨kept, filtered, _⟩ := asks.exists_filter
  have askedKnown : ∀ field ∈ asked, field ∈ known := fun field member =>
    asks.fields field (mem_fields_of_columns isColumns member)
  have notAggregate : (listing .upperCase plan asked).isAggregate = false := by
    simp [Statement.isAggregate, listing, columnOfField, Expression.hasAggregate]
  have answered : ∃ ordered, Joined.answerRows ⟨scopeOf plan.source columns, rows⟩
      (refiltered (listing .upperCase plan asked)) kept = .ok ordered := by
    unfold Joined.answerRows
    rw [if_neg (by simpa [refiltered, Statement.isAggregate] using notAggregate)]
    refine Outcome.exists_mapM fun row _ => exists_orderedRow ?_ ?_
    · intro projection member
      obtain ⟨field, isField, rfl⟩ := List.mem_map.mp member
      exact ⟨_, stocked.evaluate (askedKnown field isField) row⟩
    · intro key member
      obtain ⟨order, isOrder, rfl⟩ := List.mem_map.mp member
      exact ⟨_, stocked.evaluate (asks.fields order.field (mem_fields_of_order isOrder)) row⟩
  obtain ⟨ordered, answered⟩ := answered
  refine asks.exists_answerPlan written ?_
  refine Database.exists_answer rfl stocked.table rfl filtered ?_ answered
  intro projection member
  obtain ⟨field, isField, rfl⟩ := List.mem_map.mp member
  exact stocked.exists_typeOf (askedKnown field isField)

section Aggregate

variable {kind : AggregateKind} {of : Option PlanField} {expression : Expression}
  {kept : List (List Cell)} {groups : List Group}

theorem Asks.groups_eq (asks : plan.Asks database columns rows known)
    (written : statementOfPlan .upperCase plan = .ok statement)
    (filtered : (scopeOf plan.source columns).filter
      ((plan.filter.map (condition .upperCase)).map Expression.reread) rows = .ok kept)
    (grouped : (scopeOf plan.source columns).group
      (plan.breakout.map (columnOfField .upperCase)) kept = .ok groups) :
    database.groups (refiltered statement) = .ok (scopeOf plan.source columns, groups) := by
  obtain ⟨projections, _, same⟩ := Outcome.bind_eq_ok.mp written
  cases same
  rw [Database.groups, Database.source]
  dsimp only [refiltered]
  rw [asks.stocked.table, Outcome.ok_bind, asks.joins]
  refine Outcome.bind_eq_ok.mpr ⟨⟨scopeOf plan.source columns, rows⟩, rfl, ?_⟩
  refine Outcome.bind_eq_ok.mpr ⟨kept, filtered, ?_⟩
  exact Outcome.bind_eq_ok.mpr ⟨groups, grouped, rfl⟩

/-- The integers that the plan adds up in each of its groups fit 64 bits. -/
theorem Asks.fits_of_group (asks : plan.Asks database columns rows known)
    (sums : plan.SumsFit database)
    (isColumns : plan.columns = plan.breakout.map .field ++ [.aggregate kind of])
    (written : statementOfPlan .upperCase plan = .ok statement)
    (filtered : (scopeOf plan.source columns).filter
      ((plan.filter.map (condition .upperCase)).map Expression.reread) rows = .ok kept)
    (grouped : (scopeOf plan.source columns).group
      (plan.breakout.map (columnOfField .upperCase)) kept = .ok groups)
    (adds : kind = .sum ∨ kind = .average) {field : PlanField} (isSource : of = some field)
    {group : Group} (isGroup : group ∈ groups) {part : List Int}
    (isPart : part <+: integersOf (group.cellsOf (scopeOf plan.source columns) field)) :
    Cell.fitsInt64 part.sum = true := by
  have isAggregate : plan.aggregate? = some (kind, some field) := by
    rw [aggregate?_of_columns isColumns, isSource]
  have isKnown := asks.fields field (mem_fields_of_aggregate isColumns isSource)
  have made := asks.groups_eq written filtered grouped
  exact sums kind field isAggregate adds _ _ written (asks.parse_write written) _ groups made
    group isGroup _ (asks.stocked.summands_eq isKnown group) part isPart

/-- Sums fit if the absolute values in the column that is added up do. -/
theorem Asks.sumsFit (asks : plan.Asks database columns rows known)
    (small : ∀ kind field, plan.aggregate? = some (kind, some field) →
      kind = .sum ∨ kind = .average →
        magnitude (rows.map fun row =>
          (scopeOf plan.source columns).cellOf .upperCase row field) < 2 ^ 63) :
    plan.SumsFit database := by
  intro kind field isAggregate adds written parsed isWritten isParsed scope groups made group
    isGroup summands areSummands part isPart
  have isKnown := asks.fields field (mem_fields_of_aggregate? isAggregate)
  -- The groups are determined, and their rows are among those of the table in the same order.
  obtain ⟨kept, filtered, areRows⟩ := asks.exists_filter
  obtain ⟨others, grouped, members⟩ := asks.stocked.exists_group
    (fun field member => asks.fields field (mem_fields_of_breakout member)) kept
  obtain rfl := Except.ok.inj ((asks.parse_write isWritten).symm.trans isParsed)
  obtain ⟨rfl, rfl⟩ := Prod.mk.inj
    (Except.ok.inj ((asks.groups_eq isWritten filtered grouped).symm.trans made))
  obtain rfl := Except.ok.inj ((asks.stocked.summands_eq isKnown group).symm.trans areSummands)
  have cells : List.Sublist (group.cellsOf (scopeOf plan.source columns) field)
      (rows.map fun row => (scopeOf plan.source columns).cellOf .upperCase row field) :=
    (((members group isGroup).1.trans areRows).map _)
  have below := (natAbs_sum_le_magnitude isPart.sublist).trans (magnitude_le cells)
  exact fitsInt64_of_natAbs (Nat.lt_of_le_of_lt below (small kind field isAggregate adds))

theorem exists_typeOf_aggregate {scope : Scope} (needs : of = none ↔ kind = .count)
    (compiled : aggregateExpression .upperCase kind of = .ok expression) :
    ∃ type, scope.typeOf expression = .ok type := by
  cases of with
  | none =>
      obtain rfl := needs.mp rfl
      cases compiled
      exact ⟨_, rfl⟩
  | some field => cases kind <;> cases compiled <;> exact ⟨_, rfl⟩

theorem hasAggregate_aggregateExpression (needs : of = none ↔ kind = .count)
    (compiled : aggregateExpression .upperCase kind of = .ok expression) :
    expression.hasAggregate = true := by
  cases of with
  | none =>
      obtain rfl := needs.mp rfl
      cases compiled
      rfl
  | some field => cases kind <;> cases compiled <;> rfl

theorem Asks.exists_row_of_group (asks : plan.Asks database columns rows known)
    (sums : plan.SumsFit database)
    (isColumns : plan.columns = plan.breakout.map .field ++ [.aggregate kind of])
    (numeric : kind = .sum ∨ kind = .average →
      ∀ field, of = some field → field.field.baseType.isNumeric = true)
    (ordered : ∀ order ∈ plan.orderBy, order.field ∈ plan.breakout)
    (compiled : aggregateExpression .upperCase kind of = .ok expression)
    (filtered : (scopeOf plan.source columns).filter
      ((plan.filter.map (condition .upperCase)).map Expression.reread) rows = .ok kept)
    (areRows : List.Sublist kept rows)
    (grouped : (scopeOf plan.source columns).group
      (plan.breakout.map (columnOfField .upperCase)) kept = .ok groups)
    {group : Group} (isGroup : group ∈ groups) (members : List.Sublist group.rows kept)
    (keys : ∀ field ∈ plan.breakout, ∃ key,
      group.keyOf? (plan.breakout.map (columnOfField .upperCase))
        (columnOfField .upperCase field) = some key) :
    ∃ row, orderedRow (refiltered (aggregateStatement plan plan.source kind of expression))
      (group.evaluate (scopeOf plan.source columns)
        (plan.breakout.map (columnOfField .upperCase))) = .ok row := by
  have written := statementOfPlan_aggregate rfl asks.joins isColumns compiled
  refine exists_orderedRow ?_ ?_
  · intro projection member
    rcases List.mem_append.mp member with isField | isLast
    · obtain ⟨field, isBreakout, rfl⟩ := List.mem_map.mp isField
      exact exists_evaluate_key (keys field isBreakout)
    · obtain rfl := List.mem_singleton.mp isLast
      refine asks.stocked.exists_aggregate compiled ?_ numeric ?_ ?_
      · intro field isSource
        exact asks.fields field (mem_fields_of_aggregate isColumns isSource)
      · intro row isRow
        exact areRows.subset (members.subset isRow)
      · intro adds field isSource part isPart
        exact asks.fits_of_group sums isColumns written filtered grouped adds isSource isGroup
          isPart
  · intro key member
    obtain ⟨order, isOrder, rfl⟩ := List.mem_map.mp member
    exact exists_evaluate_key (keys order.field (ordered order isOrder))

theorem Asks.answers_aggregate (asks : plan.Asks database columns rows known)
    (sums : plan.SumsFit database)
    (isColumns : plan.columns = plan.breakout.map .field ++ [.aggregate kind of])
    (needs : of = none ↔ kind = .count)
    (numeric : kind = .sum ∨ kind = .average →
      ∀ field, of = some field → field.field.baseType.isNumeric = true)
    (ordered : ∀ order ∈ plan.orderBy, order.field ∈ plan.breakout) :
    ∃ rowset, database.answerPlan .upperCase plan = .ok (.ok rowset) ∧
      plan.Tabulates (.relational .upperCase) rowset := by
  have stocked := asks.stocked
  obtain ⟨expression, compiled⟩ := exists_aggregateExpression needs .upperCase
  have breakoutKnown : ∀ field ∈ plan.breakout, field ∈ known := fun field member =>
    asks.fields field (mem_fields_of_breakout member)
  obtain ⟨kept, filtered, areRows⟩ := asks.exists_filter
  obtain ⟨groups, grouped, made⟩ := stocked.exists_group breakoutKnown kept
  obtain ⟨ordered, areOrdered⟩ := Outcome.exists_mapM fun group isGroup =>
    asks.exists_row_of_group sums isColumns numeric ordered compiled filtered areRows grouped
      isGroup (made group isGroup).1 (made group isGroup).2
  have isAggregate : (refiltered
      (aggregateStatement plan plan.source kind of expression)).isAggregate = true := by
    simp [Statement.isAggregate, refiltered, aggregateStatement,
      hasAggregate_aggregateExpression needs compiled]
  have answered : Joined.answerRows ⟨scopeOf plan.source columns, rows⟩
      (refiltered (aggregateStatement plan plan.source kind of expression)) kept =
        .ok ordered := by
    rw [Joined.answerRows, isAggregate, if_pos rfl]
    exact Outcome.bind_eq_ok.mpr ⟨groups, grouped, areOrdered⟩
  refine asks.exists_answerPlan (statementOfPlan_aggregate rfl asks.joins isColumns compiled) ?_
  refine Database.exists_answer rfl stocked.table rfl filtered ?_ answered
  intro projection member
  rcases List.mem_append.mp member with isField | isLast
  · obtain ⟨field, isBreakout, rfl⟩ := List.mem_map.mp isField
    exact stocked.exists_typeOf (breakoutKnown field isBreakout)
  · obtain rfl := List.mem_singleton.mp isLast
    exact exists_typeOf_aggregate needs compiled

end Aggregate

/-- A database answers a plan on a table that it has. -/
theorem Arranged.exists_answer_tables (arranged : plan.Arranged)
    (asks : plan.Asks database columns rows known) (sums : plan.SumsFit database) :
    ∃ rowset, database.answerPlan .upperCase plan = .ok (.ok rowset) ∧
      plan.Tabulates (.relational .upperCase) rowset := by
  cases arranged with
  | listing isColumns ungrouped => exact asks.answers_listing isColumns ungrouped
  | aggregate isColumns needs numeric _ orderIsBreakout =>
      refine asks.answers_aggregate sums isColumns needs numeric fun order isOrder => ?_
      exact orderIsBreakout.mem_iff.mp (List.mem_map_of_mem isOrder)

end Plan

end CrossQuery
