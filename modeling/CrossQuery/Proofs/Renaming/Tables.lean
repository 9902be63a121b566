import CrossQuery.Engine.Store
import CrossQuery.Proofs.Plan.Values
import CrossQuery.Proofs.Relational.Statements
import CrossQuery.Proofs.Renaming.Sources
import CrossQuery.Proofs.Renaming.Statements
import CrossQuery.Proofs.Renaming.Stores
import CrossQuery.Proofs.Select.Ensured

/-!
# Databases under new names

A database answers a plan with the same rows after a field of its dataset has another name, unless
names that differ are spelled alike.
-/

set_option autoImplicit false

namespace CrossQuery

open Outcome Relational

namespace Renaming

variable {dataset : Dataset} (change : Renaming dataset)

/-- A change in a table that is spelled apart from the others, of a field that is spelled apart from
the others of the table. -/
structure KeepsColumns : Prop where
  alone : ∀ other ∈ change.before ++ change.later,
    Naming.upperCase.spell other.name ≠ Naming.upperCase.spell change.table.name
  steady : ∀ other ∈ change.left ++ change.right,
    Naming.upperCase.spell other.name ≠ Naming.upperCase.spell change.field.name

/-- The names of columns under the new name. -/
def column : Equiv.Perm String :=
  Equiv.swap (Naming.upperCase.spell change.field.name) (Naming.upperCase.spell change.name)

variable {change} {plan : Plan}

theorem KeepsColumns.column_of_other (keeps : change.KeepsColumns) {other : DatasetField}
    (isOther : other ∈ change.left ++ change.right) :
    change.column (Naming.upperCase.spell other.name) = Naming.upperCase.spell other.name :=
  Equiv.swap_apply_of_ne_of_ne (keeps.steady other isOther) (change.apart other isOther).symm

theorem column_field : change.column (Naming.upperCase.spell change.field.name) =
    Naming.upperCase.spell change.name :=
  Equiv.swap_apply_left _ _

theorem KeepsColumns.columns_newTable (keeps : change.KeepsColumns) :
    change.newTable.columns .upperCase =
      (change.table.columns .upperCase).map (mapName change.column) := by
  have others {fields : List DatasetField} (within : fields ⊆ change.left ++ change.right) :
      fields.map (fun field => Column.mk (Naming.upperCase.spell field.name) field.storageType.name) =
        (fields.map fun field =>
          ⟨Naming.upperCase.spell field.name, field.storageType.name⟩).map
            (mapName change.column) := by
    rw [List.map_map]
    refine List.map_congr_left fun field member => ?_
    rw [Function.comp_apply, mapName, keeps.column_of_other (within member)]
  rw [DatasetTable.columns, DatasetTable.columns, newTable, change.fields]
  simp only [List.map_append, List.map_cons]
  refine congrArg₂ List.append (others (List.subset_append_left _ _))
    (congrArg₂ List.cons ?_ (others (List.subset_append_right _ _)))
  rw [mapName, column_field]
  rfl

/-- A field of the table has the column that its old column becomes. -/
theorem KeepsColumns.spell_rename (keeps : change.KeepsColumns) {own : Field}
    (found : dataset.catalog.field own.id = .ok own) (here : own.tableId = change.tableId) :
    Naming.upperCase.spell (change.rename own).name =
      change.column (Naming.upperCase.spell own.name) := by
  rcases traits_of_own found here with ⟨concerned, traits⟩ | ⟨untouched, other, isOther, traits⟩
  · have sameName : own.name = change.field.name := congrArg Prod.fst traits
    rw [rename_of_concerns concerned, sameName, column_field]
  · have sameName : own.name = other.name := congrArg Prod.fst traits
    rw [rename_of_not_concerns untouched, sameName, keeps.column_of_other isOther]

section Conditions

open Select

/-- Fields whose columns are those that their old columns become. -/
def Moves (change : Renaming dataset) (field : PlanField) : Prop :=
  columnOfField .upperCase (field.mapFields change.rename) =
    (columnOfField .upperCase field).mapColumns change.column

theorem KeepsColumns.moves (keeps : change.KeepsColumns) (reads : plan.OfSource dataset.catalog)
    (isOwn : plan.source.id = change.tableId) : ∀ field ∈ plan.fields, change.Moves field := by
  intro field member
  obtain ⟨own, rfl, found, here⟩ := reads.named field member
  exact congrArg (Expression.column _) (keeps.spell_rename found (here.trans isOwn))

theorem constantOfCell_mapColumns (image : String → String) (cell : Cell) :
    (constantOfCell cell).mapColumns image = constantOfCell cell := by
  cases cell <;> rfl

theorem joinConditions_mapColumns (image : String → String) (operator : BinaryOperator)
    (constant : Bool) (conditions : List Expression) :
    joinConditions operator constant (conditions.map (Expression.mapColumns image)) =
      (joinConditions operator constant conditions).mapColumns image := by
  have chained (joined : Expression) (rest : List Expression) :
      (rest.map (Expression.mapColumns image)).foldl
          (fun joined condition => .binary operator joined (.nested condition))
          (joined.mapColumns image) =
        (rest.foldl (fun joined condition => .binary operator joined (.nested condition))
          joined).mapColumns image := by
    induction rest generalizing joined with
    | nil => rfl
    | cons condition rest ih => exact ih (.binary operator joined (.nested condition))
  cases conditions with
  | nil => rfl
  | cons first rest => exact chained (.nested first) rest

mutual

theorem condition_mapFields : (predicate : Predicate) →
    (∀ field ∈ predicate.fields, change.Moves field) →
    condition .upperCase (predicate.mapFields change.rename) =
      (condition .upperCase predicate).mapColumns change.column
  | .and clauses, moves => by
      rw [Predicate.mapFields, condition, condition, conditions_mapFields clauses moves,
        joinConditions_mapColumns]
  | .or clauses, moves => by
      rw [Predicate.mapFields, condition, condition, conditions_mapFields clauses moves,
        joinConditions_mapColumns]
  | .not clause, moves => by
      rw [Predicate.mapFields, condition, condition, condition_mapFields clause moves]
      rfl
  | .compare field comparison value, moves => by
      rw [Predicate.mapFields, condition, condition, moves field (List.mem_singleton_self field),
        Expression.mapColumns, constantOfCell_mapColumns]
  | .between field least greatest, moves => by
      rw [Predicate.mapFields, condition, condition, moves field (List.mem_singleton_self field),
        Expression.mapColumns, constantOfCell_mapColumns, constantOfCell_mapColumns]
  | .isNull field negated, moves => by
      rw [Predicate.mapFields, condition, condition, moves field (List.mem_singleton_self field)]
      rfl
  | .startsWith field value, moves => by
      rw [Predicate.mapFields, condition, condition, moves field (List.mem_singleton_self field)]
      rfl
  | .contains field value, moves => by
      rw [Predicate.mapFields, condition, condition, moves field (List.mem_singleton_self field)]
      rfl

theorem conditions_mapFields : (clauses : List Predicate) →
    (∀ field ∈ Predicate.fieldsOfEach clauses, change.Moves field) →
    conditions .upperCase (Predicate.mapFieldsOfEach change.rename clauses) =
      (conditions .upperCase clauses).map (Expression.mapColumns change.column)
  | [], _ => rfl
  | clause :: rest, moves => by
      rw [Predicate.mapFieldsOfEach, conditions, conditions, List.map_cons,
        condition_mapFields clause fun field member => moves field (List.mem_append_left _ member),
        conditions_mapFields rest fun field member =>
          moves field (List.mem_append_right _ member)]

end

theorem mirrors_projectionOfColumn {column : PlanColumn}
    (moves : ∀ field ∈ column.fields, change.Moves field) :
    Alike (fun before after =>
        after.expression = before.expression.mapColumns change.column)
      (projectionOfColumn .upperCase column)
      (projectionOfColumn .upperCase (column.mapFields change.rename)) := by
  cases column with
  | field shown => exact .ok (moves shown (List.mem_singleton_self shown))
  | aggregate kind source =>
      have computed : Mirrors (Expression.mapColumns change.column)
          (aggregateExpression .upperCase kind source)
          (aggregateExpression .upperCase kind
            (source.map (PlanField.mapFields change.rename))) := by
        cases source with
        | none => cases kind <;> first | exact .ok rfl | exact .error
        | some field =>
            have moved := moves field (List.mem_singleton_self field)
            have sameType : (field.mapFields change.rename).field.baseType =
                field.field.baseType := rename_baseType
            cases kind with
            | count => exact .ok rfl
            | distinct =>
                rw [Option.map_some, aggregateExpression, aggregateExpression, moved]
                exact .ok rfl
            | sum =>
                rw [Option.map_some, aggregateExpression, aggregateExpression, moved, sameType]
                exact .ok rfl
            | average =>
                rw [Option.map_some, aggregateExpression, aggregateExpression, moved]
                exact .ok rfl
      exact computed.bind fun expression _ => .ok rfl

/-- The statement of a plan with the new name has other columns. -/
theorem alike_statementOfPlan (noJoins : plan.joins = [])
    (moves : ∀ field ∈ plan.fields, change.Moves field) :
    Alike (Renames change.column) (statementOfPlan .upperCase plan)
      (statementOfPlan .upperCase (plan.mapFields change.rename)) := by
  have projected : Alike
      (List.Forall₂ fun before after =>
        after.expression = before.expression.mapColumns change.column)
      (plan.columns.mapM (projectionOfColumn .upperCase))
      ((plan.mapFields change.rename).columns.mapM (projectionOfColumn .upperCase)) := by
    have listed : List.Forall₂ (fun column (other : PlanColumn) =>
        (∀ field ∈ column.fields, change.Moves field) ∧
          other = column.mapFields change.rename)
        plan.columns (plan.columns.map (PlanColumn.mapFields change.rename)) := by
      rw [List.forall₂_map_right_iff, List.forall₂_same]
      exact fun column isColumn => ⟨fun field shown =>
        moves field (Plan.mem_fields_of_column isColumn shown), rfl⟩
    refine Alike.mapM listed fun column other ⟨moves, same⟩ => ?_
    rw [same]
    exact mirrors_projectionOfColumn moves
  refine projected.bind fun before after _ renamed => .ok ?_
  refine ⟨renamed, rfl, ?_, ?_, ?_, ?_, ?_, rfl, rfl⟩
  · dsimp only [Plan.mapFields]
    rw [noJoins]
    exact ⟨rfl, rfl⟩
  · dsimp only [Plan.mapFields]
    cases isFilter : plan.filter with
    | none => rfl
    | some predicate =>
        exact congrArg some (condition_mapFields predicate fun field tested =>
          moves field (Plan.mem_fields_of_filter isFilter tested))
  · dsimp only [Plan.mapFields]
    rw [List.map_map, List.map_map]
    exact List.map_congr_left fun field isBreakout =>
      moves field (Plan.mem_fields_of_breakout isBreakout)
  · dsimp only [Plan.mapFields]
    rw [List.map_map, List.map_map]
    refine List.map_congr_left fun order isOrder => ?_
    have moved := moves order.field (Plan.mem_fields_of_order isOrder)
    simp only [Function.comp_apply, sortKeyOfOrder, PlanOrder.mapFields]
    rw [moved]
  · intro key member
    obtain ⟨order, _, rfl⟩ := List.mem_map.mp member
    exact column_columnOfField _ _

end Conditions

end Renaming

section Texts

open Select

/-- Reading texts anew leaves statements that differ in the names of columns alike. -/
theorem Relational.Renames.reread {image : String → String} {statement other : Statement}
    (renames : Renames image statement other) : Renames image statement.reread other.reread := by
  refine ⟨?_, renames.source, ?_, ?_, ?_, ?_, ?_, renames.window⟩
  · rw [Statement.reread, Statement.reread, List.forall₂_map_left_iff, List.forall₂_map_right_iff]
    refine renames.projected.imp fun before after same => ?_
    rw [same, Expression.reread_mapColumns]
  · rw [Statement.reread, Statement.reread, renames.unjoined.1, renames.unjoined.2]
    exact ⟨rfl, rfl⟩
  · rw [Statement.reread, Statement.reread, renames.filter]
    cases statement.filter with
    | none => rfl
    | some condition => exact congrArg some (Expression.reread_mapColumns image condition)
  · rw [Statement.reread, Statement.reread, renames.groupBy, List.map_map, List.map_map]
    exact List.map_congr_left fun key _ => Expression.reread_mapColumns image key
  · rw [Statement.reread, Statement.reread, renames.orderBy, List.map_map, List.map_map]
    refine List.map_congr_left fun key _ => ?_
    simp only [Function.comp_apply, Expression.reread_mapColumns]
  · intro key member
    obtain ⟨asked, isAsked, rfl⟩ := List.mem_map.mp member
    obtain ⟨table, name, same⟩ := renames.qualified asked isAsked
    exact ⟨table, name, by rw [same]; rfl⟩

theorem Relational.source_statementOfPlan {naming : Naming} {plan : Plan} {statement : Statement}
    (written : statementOfPlan naming plan = .ok statement) :
    statement.source.name = naming.spell plan.source.name := by
  obtain ⟨projections, _, same⟩ := bind_eq_ok.mp written
  cases same
  rfl

/-- A plan on one table whose text is read as what it says. -/
structure Plan.Expressible (plan : Plan) : Prop where
  joins : plan.joins = []
  values : ∀ predicate ∈ plan.filter, ∀ cell ∈ predicate.values, cell.Expressible
  limit : ∀ count, plan.limit = some count → count < 2 ^ 64
  offset : ∀ count, plan.offset = some count → count < 2 ^ 64

mutual

theorem Predicate.values_mapFields (image : Field → Field) : (predicate : Predicate) →
    (predicate.mapFields image).values = predicate.values
  | .and clauses => valuesOfEach_mapFields image clauses
  | .or clauses => valuesOfEach_mapFields image clauses
  | .not clause => values_mapFields image clause
  | .compare _ _ _ | .between _ _ _ | .isNull _ _ | .startsWith _ _ | .contains _ _ => rfl

theorem Predicate.valuesOfEach_mapFields (image : Field → Field) : (clauses : List Predicate) →
    Predicate.valuesOfEach (Predicate.mapFieldsOfEach image clauses) =
      Predicate.valuesOfEach clauses
  | [] => rfl
  | clause :: rest => by
      rw [mapFieldsOfEach, valuesOfEach, valuesOfEach, values_mapFields image clause,
        valuesOfEach_mapFields image rest]

end

namespace Plan.Expressible

variable {plan : Plan} {statement : Statement} {database other : Database}

theorem mapFields (expressible : plan.Expressible) (image : Field → Field) :
    (plan.mapFields image).Expressible := by
  refine ⟨?_, ?_, expressible.limit, expressible.offset⟩
  · rw [Plan.mapFields, expressible.joins]
    rfl
  · intro predicate isFilter
    obtain ⟨original, isOriginal, rfl⟩ := Option.map_eq_some_iff.mp isFilter
    rw [Predicate.values_mapFields]
    exact expressible.values original isOriginal

theorem planned (expressible : plan.Expressible) (someColumns : plan.columns ≠ [])
    (written : statementOfPlan .upperCase plan = .ok statement) :
    statement.Planned fun _ => True :=
  planned_of_operands written someColumns
    (fun predicate isFilter cell compared =>
      operand_of_expressible (expressible.values predicate isFilter cell compared))
    expressible.limit expressible.offset

theorem unjoined (expressible : plan.Expressible)
    (written : statementOfPlan .upperCase plan = .ok statement) : statement.joins = [] := by
  obtain ⟨projections, _, same⟩ := bind_eq_ok.mp written
  cases same
  rw [expressible.joins]
  rfl

/-- A database answers a plan as it answers the statement that the text is read as. -/
theorem answerPlan_eq (expressible : plan.Expressible) (someColumns : plan.columns ≠ [])
    (written : statementOfPlan .upperCase plan = .ok statement) (database : Database) :
    database.answerPlan .upperCase plan =
      .ok ((database.answer statement.reread).mapError Refusal.failure) :=
  Database.answerPlan_of_planned written (expressible.planned someColumns written) database

/-- The columns of an answer have the names that the plan gives them. -/
theorem names_of_answer (expressible : plan.Expressible) (someColumns : plan.columns ≠ [])
    (written : statementOfPlan .upperCase plan = .ok statement) {answer : Rowset}
    (answered : database.answer statement.reread = .ok answer) :
    answer.columns.map Column.name = plan.columnNames (.relational .upperCase) := by
  have planned := expressible.planned someColumns written
  rw [reread_statementOfPlan written planned] at answered
  obtain ⟨joined, _, answered⟩ := bind_eq_ok.mp answered
  obtain ⟨kept, _, answered⟩ := bind_eq_ok.mp answered
  obtain ⟨columns, areColumns, answered⟩ := bind_eq_ok.mp answered
  obtain ⟨ordered, _, same⟩ := bind_eq_ok.mp answered
  cases same
  rw [Plan.columnNames, ← givenNames_statementOfPlan written]
  refine map_eq_map_of_mapM areColumns fun projection _ column isColumn => ?_
  obtain ⟨type, _, same⟩ := bind_eq_ok.mp isColumn
  cases same
  rfl

end Plan.Expressible

/-- A plan without columns has a text that no database accepts. -/
theorem Plan.answerPlan_of_noColumns {plan : Plan} (noColumns : plan.columns = [])
    (database : Database) :
    ∃ failure, database.answerPlan .upperCase plan = .ok (.error failure) := by
  obtain ⟨statement, written, noProjections⟩ : ∃ statement : Statement,
      statementOfPlan .upperCase plan = .ok statement ∧ statement.projections = [] := by
    rw [statementOfPlan, noColumns]
    exact ⟨_, rfl, rfl⟩
  obtain ⟨failure, refused⟩ := statement.parse_write_of_noProjections noProjections
  rw [Database.answerPlan, written, ok_bind, Database.execute, refused]
  exact ⟨_, rfl⟩

/-- A statement over one table is answered alike by databases that have the same table. -/
theorem Relational.Database.answer_congr {database other : Database} {statement : Statement}
    (noJoins : statement.joins = [])
    (same : other.table statement.source.name = database.table statement.source.name) :
    other.answer statement = database.answer statement := by
  rw [Database.answer, Database.answer, Database.source, Database.source, same, noJoins]
  rfl

end Texts

/-- A row set that answers a plan with given rows, under the names of the plan. -/
structure Rowset.Shows (rowset : Rowset) (plan : Plan) (capabilities : Capabilities)
    (rows : List (List Cell)) : Prop where
  rows : rowset.rows = rows
  names : rowset.columns.map Column.name = plan.columnNames capabilities

namespace Renaming

variable {dataset : Dataset} {change : Renaming dataset} {plan : Plan} {database other : Database}

/-- The answers of two stores to a plan and to its image show the same rows, if there are any. -/
def AnswersAlike (change : Renaming dataset) (plan : Plan) (capabilities : Capabilities)
    (before after : Except Failure (Except Failure Rowset)) : Prop :=
  Alike (Alike fun answer result => ∃ rows, answer.Shows plan capabilities rows ∧
    result.Shows (plan.mapFields change.rename) capabilities rows) before after

theorem KeepsColumns.answersAlike_of_own (keeps : change.KeepsColumns)
    (reads : plan.OfSource dataset.catalog) (isOwn : plan.source.id = change.tableId)
    (expressible : plan.Expressible) (someColumns : plan.columns ≠ [])
    (built : dataset.database .upperCase = .ok database)
    (newBuilt : change.renamed.database .upperCase = .ok other) :
    change.AnswersAlike plan (.relational .upperCase) (database.answerPlan .upperCase plan)
      (other.answerPlan .upperCase (plan.mapFields change.rename)) := by
  have written := change.alike_statementOfPlan reads.joins (keeps.moves reads isOwn)
  generalize isStatement : statementOfPlan .upperCase plan = outcome at written
  generalize isOther : statementOfPlan .upperCase (plan.mapFields change.rename) = otherOutcome
    at written
  cases written with
  | error =>
      rw [Database.answerPlan, Database.answerPlan, isStatement, isOther]
      exact .error
  | @ok statement renamed renames =>
      obtain ⟨rows, held, newHeld⟩ := change.exists_rows built newBuilt fun table isLater =>
        keeps.alone table (List.mem_append_right _ isLater)
      have sourceName : statement.reread.source.name =
          Naming.upperCase.spell change.table.name := by
        rw [← name_of_own reads isOwn, ← source_statementOfPlan isStatement]
        rfl
      have newExpressible := expressible.mapFields change.rename
      have someNew : (plan.mapFields change.rename).columns ≠ [] := by
        rw [Plan.mapFields, ne_eq, List.map_eq_nil_iff]
        exact someColumns
      rw [expressible.answerPlan_eq someColumns isStatement,
        newExpressible.answerPlan_eq someNew isOther]
      rw [keeps.columns_newTable] at newHeld
      rw [← sourceName] at held newHeld
      have answered := renames.reread.alike_answer change.column.injective held newHeld
      refine .ok (Alike.mapError ?_ _ _)
      generalize isAnswer : database.answer statement.reread = answer at answered
      generalize isResult : other.answer renamed.reread = result at answered
      cases answered with
      | error => exact .error
      | ok sameRows =>
          exact .ok ⟨_, ⟨rfl, expressible.names_of_answer someColumns isStatement isAnswer⟩,
            ⟨sameRows, newExpressible.names_of_answer someNew isOther isResult⟩⟩

theorem KeepsColumns.answersAlike_of_other (keeps : change.KeepsColumns)
    (reads : plan.OfSource dataset.catalog) (elsewhere : plan.source.id ≠ change.tableId)
    (expressible : plan.Expressible) (someColumns : plan.columns ≠ [])
    (others : ∀ name, name ≠ Naming.upperCase.spell change.table.name →
      other.table name = database.table name) :
    change.AnswersAlike plan (.relational .upperCase) (database.answerPlan .upperCase plan)
      (other.answerPlan .upperCase (plan.mapFields change.rename)) := by
  have samePlan := mapFields_of_other reads elsewhere
  rw [samePlan]
  cases isStatement : statementOfPlan .upperCase plan with
  | error failure =>
      rw [Database.answerPlan, Database.answerPlan, isStatement]
      exact .error
  | ok statement =>
      rw [expressible.answerPlan_eq someColumns isStatement,
        expressible.answerPlan_eq someColumns isStatement]
      have sameTable : other.table statement.reread.source.name =
          database.table statement.reread.source.name := by
        obtain ⟨table, isTable, sameName⟩ := name_of_other reads elsewhere
        refine others _ fun sameSpelling => keeps.alone table isTable ?_
        rw [← sameName, ← sameSpelling]
        exact (source_statementOfPlan isStatement).symm
      have noJoins : statement.reread.joins = [] := by
        rw [Select.Statement.reread, expressible.unjoined isStatement]
        rfl
      rw [Database.answer_congr noJoins sameTable]
      refine .ok (Alike.mapError ?_ _ _)
      cases isAnswer : database.answer statement.reread with
      | error => exact .error
      | ok answer =>
          have names := expressible.names_of_answer someColumns isStatement isAnswer
          exact .ok ⟨_, ⟨rfl, names⟩, rfl, samePlan.symm ▸ names⟩

theorem answersAlike_of_noColumns (noColumns : plan.columns = []) :
    change.AnswersAlike plan (.relational .upperCase) (database.answerPlan .upperCase plan)
      (other.answerPlan .upperCase (plan.mapFields change.rename)) := by
  have noNew : (plan.mapFields change.rename).columns = [] := by
    rw [Plan.mapFields, noColumns]
    rfl
  obtain ⟨failure, answered⟩ := Plan.answerPlan_of_noColumns noColumns database
  obtain ⟨newFailure, newAnswered⟩ := Plan.answerPlan_of_noColumns noNew other
  rw [answered, newAnswered]
  exact .ok .error

/-- A database answers the plan with the new name as it answered the plan. -/
theorem KeepsColumns.answersAlike (keeps : change.KeepsColumns)
    (reads : plan.OfSource dataset.catalog) (expressible : plan.Expressible)
    (built : dataset.database .upperCase = .ok database)
    (newBuilt : change.renamed.database .upperCase = .ok other)
    (others : ∀ name, name ≠ Naming.upperCase.spell change.table.name →
      other.table name = database.table name) :
    change.AnswersAlike plan (.relational .upperCase) (database.answerPlan .upperCase plan)
      (other.answerPlan .upperCase (plan.mapFields change.rename)) := by
  by_cases noColumns : plan.columns = []
  · exact answersAlike_of_noColumns noColumns
  · by_cases isOwn : plan.source.id = change.tableId
    · exact keeps.answersAlike_of_own reads isOwn expressible noColumns built newBuilt
    · exact keeps.answersAlike_of_other reads isOwn expressible noColumns others

end Renaming

end CrossQuery
