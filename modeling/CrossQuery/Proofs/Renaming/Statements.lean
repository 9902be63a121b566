import CrossQuery.Proofs.Outcome
import CrossQuery.Proofs.Select.Planned
import CrossQuery.Relational.Answer

/-!
# Statements under new names

A statement whose columns have other names is answered with the same rows by a database whose
columns have these names, if no two columns get one name.
-/

set_option autoImplicit false

namespace CrossQuery

open Outcome

namespace Select

namespace Expression

mutual

/-- An expression with the name of each column changed. -/
def mapColumns (image : String → String) : Expression → Expression
  | .column table name => .column table (image name)
  | .literal value => .literal value
  | .binary operator left right =>
    .binary operator (left.mapColumns image) (right.mapColumns image)
  | .unary operator operand => .unary operator (operand.mapColumns image)
  | .aggregate name arguments distinct =>
    .aggregate name (mapColumnsOfEach image arguments) distinct
  | .inList operand items negated =>
    .inList (operand.mapColumns image) (mapColumnsOfEach image items) negated
  | .between operand least greatest negated =>
    .between (operand.mapColumns image) (least.mapColumns image) (greatest.mapColumns image) negated
  | .isNull operand negated => .isNull (operand.mapColumns image) negated
  | .cast operand type => .cast (operand.mapColumns image) type
  | .wildcard => .wildcard
  | .nested inner => .nested (inner.mapColumns image)

def mapColumnsOfEach (image : String → String) : List Expression → List Expression
  | [] => []
  | first :: rest => first.mapColumns image :: mapColumnsOfEach image rest

end

mutual

/-- Names that are told apart before are told apart afterwards. -/
theorem same_mapColumns {image : String → String} (injective : Function.Injective image) :
    (left right : Expression) →
    (left.mapColumns image).same (right.mapColumns image) = left.same right
  | .column table name, right => by
      cases right with
      | column table' name' =>
          have sameNames : (image name == image name') = (name == name') := by
            rw [Bool.beq_eq_decide_eq, Bool.beq_eq_decide_eq, decide_eq_decide]
            exact injective.eq_iff
          rw [mapColumns, mapColumns, same, same, sameNames]
      | _ => rfl
  | .literal value, right => by cases right <;> rfl
  | .binary operator left right, other => by
      cases other with
      | binary operator' left' right' =>
          rw [mapColumns, mapColumns, same, same, same_mapColumns injective left left',
            same_mapColumns injective right right']
      | _ => rfl
  | .unary operator operand, other => by
      cases other with
      | unary operator' operand' =>
          rw [mapColumns, mapColumns, same, same, same_mapColumns injective operand operand']
      | _ => rfl
  | .aggregate name arguments distinct, other => by
      cases other with
      | aggregate name' arguments' distinct' =>
          rw [mapColumns, mapColumns, same, same, sameAll_mapColumns injective arguments arguments']
      | _ => rfl
  | .inList operand items negated, other => by
      cases other with
      | inList operand' items' negated' =>
          rw [mapColumns, mapColumns, same, same, same_mapColumns injective operand operand',
            sameAll_mapColumns injective items items']
      | _ => rfl
  | .between operand least greatest negated, other => by
      cases other with
      | between operand' least' greatest' negated' =>
          rw [mapColumns, mapColumns, same, same, same_mapColumns injective operand operand',
            same_mapColumns injective least least', same_mapColumns injective greatest greatest']
      | _ => rfl
  | .isNull operand negated, other => by
      cases other with
      | isNull operand' negated' =>
          rw [mapColumns, mapColumns, same, same, same_mapColumns injective operand operand']
      | _ => rfl
  | .cast operand type, other => by
      cases other with
      | cast operand' type' =>
          rw [mapColumns, mapColumns, same, same, same_mapColumns injective operand operand']
      | _ => rfl
  | .wildcard, other => by cases other <;> rfl
  | .nested inner, other => by
      cases other with
      | nested inner' => rw [mapColumns, mapColumns, same, same, same_mapColumns injective inner inner']
      | _ => rfl

theorem sameAll_mapColumns {image : String → String} (injective : Function.Injective image) :
    (left right : List Expression) →
    sameAll (mapColumnsOfEach image left) (mapColumnsOfEach image right) = sameAll left right
  | [], right => by cases right <;> rfl
  | first :: rest, right => by
      cases right with
      | nil => rfl
      | cons first' rest' =>
          rw [mapColumnsOfEach, mapColumnsOfEach, sameAll, sameAll, same_mapColumns injective first first',
            sameAll_mapColumns injective rest rest']

end

variable (image : String → String)

theorem mapColumnsOfEach_eq_map (expressions : List Expression) :
    mapColumnsOfEach image expressions = expressions.map (mapColumns image) := by
  induction expressions with
  | nil => rfl
  | cons first rest ih => rw [mapColumnsOfEach, ih, List.map_cons]

mutual

theorem hasAggregate_mapColumns : (expression : Expression) →
    (expression.mapColumns image).hasAggregate = expression.hasAggregate
  | .column _ _ | .literal _ | .wildcard | .aggregate _ _ _ => rfl
  | .binary _ left right => by
      rw [mapColumns, hasAggregate, hasAggregate, hasAggregate_mapColumns left,
        hasAggregate_mapColumns right]
  | .unary _ operand => hasAggregate_mapColumns operand
  | .isNull operand _ => hasAggregate_mapColumns operand
  | .cast operand _ => hasAggregate_mapColumns operand
  | .nested inner => hasAggregate_mapColumns inner
  | .inList operand items _ => by
      rw [mapColumns, hasAggregate, hasAggregate, hasAggregate_mapColumns operand,
        anyHasAggregate_mapColumns items]
  | .between operand least greatest _ => by
      rw [mapColumns, hasAggregate, hasAggregate, hasAggregate_mapColumns operand,
        hasAggregate_mapColumns least, hasAggregate_mapColumns greatest]

theorem anyHasAggregate_mapColumns : (expressions : List Expression) →
    anyHasAggregate (mapColumnsOfEach image expressions) = anyHasAggregate expressions
  | [] => rfl
  | first :: rest => by
      rw [mapColumnsOfEach, anyHasAggregate, anyHasAggregate, hasAggregate_mapColumns first,
        anyHasAggregate_mapColumns rest]

end

mutual

/-- Reading a text anew changes numbers only. -/
theorem reread_mapColumns : (expression : Expression) →
    (expression.mapColumns image).reread = expression.reread.mapColumns image
  | .column _ _ | .wildcard => rfl
  | .literal value => by
      have signed (negative : Bool) (spelling : String) :
          (signedNumber negative spelling).mapColumns image = signedNumber negative spelling := by
        cases negative <;> rfl
      cases value with
      | integer value => exact (signed _ _).symm
      | float value => exact (signed _ _).symm
      | _ => rfl
  | .binary _ left right => by
      rw [mapColumns, reread, reread, mapColumns, reread_mapColumns left, reread_mapColumns right]
  | .unary _ operand => by
      rw [mapColumns, reread, reread, mapColumns, reread_mapColumns operand]
  | .aggregate _ arguments _ => by
      rw [mapColumns, reread, reread, mapColumns, rereadAll_mapColumns arguments]
  | .inList operand items _ => by
      rw [mapColumns, reread, reread, mapColumns, reread_mapColumns operand,
        rereadAll_mapColumns items]
  | .between operand least greatest _ => by
      rw [mapColumns, reread, reread, mapColumns, reread_mapColumns operand,
        reread_mapColumns least, reread_mapColumns greatest]
  | .isNull operand _ => by
      rw [mapColumns, reread, reread, mapColumns, reread_mapColumns operand]
  | .cast operand _ => by
      rw [mapColumns, reread, reread, mapColumns, reread_mapColumns operand]
  | .nested inner => by
      rw [mapColumns, reread, reread, mapColumns, reread_mapColumns inner]

theorem rereadAll_mapColumns : (expressions : List Expression) →
    rereadAll (mapColumnsOfEach image expressions) =
      mapColumnsOfEach image (rereadAll expressions)
  | [] => rfl
  | first :: rest => by
      rw [mapColumnsOfEach, rereadAll, rereadAll, mapColumnsOfEach, reread_mapColumns first,
        rereadAll_mapColumns rest]

end

end Expression

end Select

namespace Relational

open Select

def mapName (image : String → String) (column : Column) : Column :=
  ⟨image column.name, column.type⟩

def Scope.mapColumns (image : String → String) (scope : Scope) : Scope :=
  scope.map fun binding => ⟨binding.name, binding.columns.map (mapName image)⟩

section Evaluation

variable {image : String → String} (injective : Function.Injective image) {scope : Scope}
  {row : List Cell}

include injective

theorem Scope.position?_mapColumns (name : String) (columns : List Column) :
    position? (image name) (columns.map (mapName image)) =
      (position? name columns).map (Prod.map (mapName image) id) := by
  have sameName : (fun entry : Column × Nat => entry.1.name == image name) ∘
      Prod.map (mapName image) id = fun entry => entry.1.name == name := by
    funext entry
    simp only [Function.comp_apply, Prod.map, mapName, Bool.beq_eq_decide_eq, injective.eq_iff]
  rw [position?, position?, List.zipIdx_map, List.find?_map, sameName]

theorem Scope.candidates_mapColumns (qualifier : Option String) (name : String) (offset : Nat)
    (scope : Scope) :
    candidates qualifier (image name) offset (scope.mapColumns image) =
      (candidates qualifier name offset scope).map (Prod.map (mapName image) id) := by
  induction scope generalizing offset with
  | nil => rfl
  | cons binding rest ih =>
      have sameCovers : covers qualifier ⟨binding.name, binding.columns.map (mapName image)⟩ =
          covers qualifier binding := rfl
      rw [Scope.mapColumns, List.map_cons, candidates, candidates, List.length_map, sameCovers,
        position?_mapColumns injective]
      have others := ih (offset + binding.columns.length)
      rw [Scope.mapColumns] at others
      rw [others]
      cases covers qualifier binding with
      | false => rfl
      | true =>
          cases position? name binding.columns with
          | none => rfl
          | some found => rfl

theorem Scope.mirrors_resolve (qualifier : Option String) (name : String) :
    Mirrors (Prod.map (mapName image) id) (scope.resolve qualifier name)
      ((scope.mapColumns image).resolve qualifier (image name)) := by
  unfold resolve
  rw [candidates_mapColumns injective]
  cases candidates qualifier name 0 scope with
  | nil => exact .error
  | cons found others =>
      cases others with
      | nil => exact .ok rfl
      | cons _ _ => exact .error

end Evaluation

mutual

/-- An expression has the value that it had before. -/
theorem Scope.mirrors_evaluate {image : String → String} (injective : Function.Injective image)
    (scope : Scope) (row : List Cell) : (expression : Expression) →
    Mirrors id (scope.evaluate row expression)
      ((scope.mapColumns image).evaluate row (expression.mapColumns image))
  | .column table name => by
      rw [evaluate, Expression.mapColumns, evaluate]
      exact (mirrors_resolve injective table name).bind fun found _ => .ok rfl
  | .literal value => by
      rw [evaluate, Expression.mapColumns, evaluate]
      exact .ok rfl
  | .binary operator left right => by
      rw [evaluate, Expression.mapColumns, evaluate]
      refine (mirrors_evaluate injective scope row left).bind fun left _ => ?_
      refine (mirrors_evaluate injective scope row right).bind fun right _ => ?_
      exact Mirrors.refl _
  | .unary operator operand => by
      rw [evaluate, Expression.mapColumns, evaluate]
      exact (mirrors_evaluate injective scope row operand).bind fun value _ => Mirrors.refl _
  | .inList operand items negated => by
      rw [evaluate, Expression.mapColumns, evaluate]
      refine (mirrors_evaluate injective scope row operand).bind fun value _ => ?_
      exact (mirrors_evaluateAll injective scope row items).bind fun values _ => Mirrors.refl _
  | .between operand least greatest negated => by
      rw [evaluate, Expression.mapColumns, evaluate]
      refine (mirrors_evaluate injective scope row operand).bind fun value _ => ?_
      refine (mirrors_evaluate injective scope row least).bind fun low _ => ?_
      exact (mirrors_evaluate injective scope row greatest).bind fun high _ => Mirrors.refl _
  | .isNull operand negated => by
      rw [evaluate, Expression.mapColumns, evaluate]
      exact (mirrors_evaluate injective scope row operand).bind fun value _ => Mirrors.refl _
  | .cast operand type => by
      rw [evaluate, Expression.mapColumns, evaluate]
      exact (mirrors_evaluate injective scope row operand).bind fun value _ => Mirrors.refl _
  | .nested inner => by
      rw [evaluate, Expression.mapColumns, evaluate]
      exact mirrors_evaluate injective scope row inner
  | .aggregate name arguments distinct => by
      rw [evaluate, Expression.mapColumns, evaluate]
      exact .error
  | .wildcard => by
      rw [evaluate, Expression.mapColumns, evaluate]
      exact .error

theorem Scope.mirrors_evaluateAll {image : String → String} (injective : Function.Injective image)
    (scope : Scope) (row : List Cell) : (expressions : List Expression) →
    Mirrors id (scope.evaluateAll row expressions)
      ((scope.mapColumns image).evaluateAll row (Expression.mapColumnsOfEach image expressions))
  | [] => by
      rw [evaluateAll, Expression.mapColumnsOfEach, evaluateAll]
      exact .ok rfl
  | first :: rest => by
      rw [evaluateAll, Expression.mapColumnsOfEach, evaluateAll]
      refine (mirrors_evaluate injective scope row first).bind fun value _ => ?_
      exact (mirrors_evaluateAll injective scope row rest).bind fun values _ => Mirrors.refl _

end

mutual

theorem Scope.mirrors_typeOf {image : String → String} (injective : Function.Injective image)
    (scope : Scope) : (expression : Expression) →
    Mirrors id (scope.typeOf expression)
      ((scope.mapColumns image).typeOf (expression.mapColumns image))
  | .column table name => by
      rw [Expression.mapColumns, typeOf, typeOf]
      exact (mirrors_resolve injective table name).bind fun found _ => .ok rfl
  | .aggregate name arguments distinct => by
      rw [Expression.mapColumns]
      by_cases isCount : name = "COUNT"
      · subst isCount
        rw [typeOf, typeOf]
        exact .ok rfl
      · by_cases isMean : name = "AVG"
        · subst isMean
          rw [typeOf, typeOf]
          exact .ok rfl
        · rw [typeOf, typeOf]
          · exact mirrors_typeOfFirst injective scope arguments
          all_goals assumption
  | .cast operand type => by
      rw [Expression.mapColumns, typeOf, typeOf]
      exact .ok rfl
  | .literal value => by
      cases value <;> exact .ok rfl
  | .nested inner => by
      rw [Expression.mapColumns, typeOf, typeOf]
      exact mirrors_typeOf injective scope inner
  | .unary operator operand => by
      rw [Expression.mapColumns]
      cases operator with
      | minus =>
          rw [typeOf, typeOf]
          exact mirrors_typeOf injective scope operand
      | not => exact .ok rfl
  | .wildcard | .binary _ _ _ | .inList _ _ _ | .between _ _ _ _ | .isNull _ _ => .ok rfl

theorem Scope.mirrors_typeOfFirst {image : String → String}
    (injective : Function.Injective image) (scope : Scope) : (expressions : List Expression) →
    Mirrors id (scope.typeOfFirst expressions)
      ((scope.mapColumns image).typeOfFirst (Expression.mapColumnsOfEach image expressions))
  | [] => .ok rfl
  | first :: _ => mirrors_typeOf injective scope first

end

section Answers

variable {image : String → String} (injective : Function.Injective image) (scope : Scope)

include injective

theorem Scope.mirrors_holding (condition : Expression) (rows : List (List Cell)) :
    Mirrors id (scope.holding condition rows)
      ((scope.mapColumns image).holding (condition.mapColumns image) rows) := by
  induction rows with
  | nil => exact .ok rfl
  | cons row rest ih =>
      rw [holding, holding]
      have truths : Mirrors id (scope.truth condition row)
          ((scope.mapColumns image).truth (condition.mapColumns image) row) :=
        (mirrors_evaluate injective scope row condition).bind fun value _ => Mirrors.refl _
      exact truths.bind fun truth _ => ih.bind fun kept _ => Mirrors.refl _

theorem Scope.mirrors_filter (condition : Option Expression) (rows : List (List Cell)) :
    Mirrors id (scope.filter condition rows)
      ((scope.mapColumns image).filter (condition.map (Expression.mapColumns image)) rows) := by
  cases condition with
  | none => exact .ok rfl
  | some condition => exact mirrors_holding injective scope condition rows

end Answers

section Groups

variable {image : String → String} (injective : Function.Injective image) (scope : Scope)
  (groupBy : List Expression) (group : Group)

include injective

theorem Group.keyOf?_mapColumns (expression : Expression) :
    group.keyOf? (groupBy.map (Expression.mapColumns image)) (expression.mapColumns image) =
      group.keyOf? groupBy expression := by
  rw [keyOf?, keyOf?, List.zip_map_left, List.findSome?_map]
  congr 1
  funext entry
  simp only [Function.comp_apply, Prod.map, Expression.same_mapColumns injective, id_eq]

theorem Group.mirrors_keyOr {expression : Expression} {otherwise other : Except Refusal Cell}
    (mirrors : Mirrors id otherwise other) :
    Mirrors id (group.keyOr groupBy expression otherwise)
      (group.keyOr (groupBy.map (Expression.mapColumns image)) (expression.mapColumns image)
        other) := by
  rw [keyOr, keyOr, keyOf?_mapColumns injective]
  cases group.keyOf? groupBy expression with
  | none => exact mirrors
  | some key => exact .ok rfl

theorem Group.mirrors_aggregate (name : String) (arguments : List Expression) (distinct : Bool) :
    Mirrors id (group.aggregate scope name arguments distinct)
      (group.aggregate (scope.mapColumns image) name
        (Expression.mapColumnsOfEach image arguments) distinct) := by
  cases arguments with
  | nil => exact .error
  | cons argument others =>
      have sameStar : (argument.mapColumns image).same .wildcard = argument.same .wildcard :=
        Expression.same_mapColumns injective argument .wildcard
      rw [aggregate, Expression.mapColumnsOfEach, aggregate, sameStar]
      split
      · exact .ok rfl
      · have values : Mirrors id (group.rows.mapM fun row => scope.evaluate row argument)
            (group.rows.mapM fun row =>
              (scope.mapColumns image).evaluate row (argument.mapColumns image)) :=
          Mirrors.mapM_id fun row _ => Scope.mirrors_evaluate injective scope row argument
        exact values.bind fun cells _ => Mirrors.refl _

omit injective in
/-- An expression has the value on a group that it had before. -/
theorem Group.mirrors_evaluate (injective : Function.Injective image) : (expression : Expression) →
    Mirrors id (group.evaluate scope groupBy expression)
      (group.evaluate (scope.mapColumns image) (groupBy.map (Expression.mapColumns image))
        (expression.mapColumns image))
  | .aggregate name arguments distinct =>
      mirrors_keyOr injective groupBy group
        (mirrors_aggregate injective scope group name arguments distinct)
  | .literal _ => mirrors_keyOr injective groupBy group (.ok rfl)
  | .nested inner => mirrors_keyOr injective groupBy group (mirrors_evaluate injective inner)
  | .cast operand _ =>
      mirrors_keyOr injective groupBy group
        ((mirrors_evaluate injective operand).bind fun _ _ => Mirrors.refl _)
  | .binary _ left right =>
      mirrors_keyOr injective groupBy group
        ((mirrors_evaluate injective left).bind fun _ _ =>
          (mirrors_evaluate injective right).bind fun _ _ => Mirrors.refl _)
  | .unary _ operand =>
      mirrors_keyOr injective groupBy group
        ((mirrors_evaluate injective operand).bind fun _ _ => Mirrors.refl _)
  | .column _ _ => mirrors_keyOr injective groupBy group .error
  | .wildcard | .inList _ _ _ | .between _ _ _ _ | .isNull _ _ =>
      mirrors_keyOr injective groupBy group .error

theorem Scope.mirrors_group (rows : List (List Cell)) :
    Mirrors id (scope.group groupBy rows)
      ((scope.mapColumns image).group (groupBy.map (Expression.mapColumns image)) rows) := by
  unfold group
  rw [List.isEmpty_map]
  split
  · exact .ok rfl
  · have keyed : Mirrors id (scope.keyed groupBy rows)
        ((scope.mapColumns image).keyed (groupBy.map (Expression.mapColumns image)) rows) := by
      refine Mirrors.mapM_id fun row _ => ?_
      rw [← Expression.mapColumnsOfEach_eq_map]
      exact (mirrors_evaluateAll injective scope row groupBy).bind fun values _ => Mirrors.refl _
    exact keyed.bind fun made _ => Mirrors.refl _

end Groups

/-- A statement over one table with the name of each column changed. The names that its projections
are given may differ, as sort keys are columns of the table. -/
structure Renames (image : String → String) (statement other : Statement) : Prop where
  projected : List.Forall₂
    (fun before after => after.expression = before.expression.mapColumns image)
    statement.projections other.projections
  source : other.source = statement.source
  unjoined : statement.joins = [] ∧ other.joins = []
  filter : other.filter = statement.filter.map (Expression.mapColumns image)
  groupBy : other.groupBy = statement.groupBy.map (Expression.mapColumns image)
  orderBy : other.orderBy = statement.orderBy.map fun key =>
    { key with expression := key.expression.mapColumns image }
  qualified : ∀ key ∈ statement.orderBy, key.expression.IsColumn
  window : other.limit = statement.limit ∧ other.offset = statement.offset

namespace Renames

variable {image : String → String} {statement other : Statement}

theorem isAggregate (renames : Renames image statement other) :
    other.isAggregate = statement.isAggregate := by
  have projections : (other.projections.any fun projection =>
      projection.expression.hasAggregate) =
        statement.projections.any fun projection => projection.expression.hasAggregate := by
    have projected := renames.projected
    generalize statement.projections = projections at projected ⊢
    generalize other.projections = others at projected ⊢
    induction projected with
    | nil => rfl
    | @cons before after _ _ same _ ih =>
        rw [List.any_cons, List.any_cons, ih, same, Expression.hasAggregate_mapColumns]
  rw [Statement.isAggregate, Statement.isAggregate, projections, renames.groupBy, List.isEmpty_map]

theorem compareKeys_mapColumns (image : String → String) (keys : List SortKey)
    (left right : List Cell) :
    compareKeys (keys.map fun key => { key with expression := key.expression.mapColumns image })
        left right =
      compareKeys keys left right := by
  induction keys generalizing left right with
  | nil => rfl
  | cons key rest ih =>
      cases left with
      | nil => rfl
      | cons cell cells =>
          cases right with
          | nil => rfl
          | cons otherCell otherCells =>
              rw [List.map_cons, compareKeys, compareKeys, ih]
              rfl

variable {evaluate evaluateOther : Expression → Except Refusal Cell}

theorem projectedKey?_of_isColumn {expression : Expression} (isColumn : expression.IsColumn)
    (statement : Statement) (values : List Cell) :
    projectedKey? statement values expression = none := by
  obtain ⟨table, name, rfl⟩ := isColumn
  rfl

/-- A row of the answer is the one from before, if expressions have the values from before. -/
theorem mirrors_orderedRow (renames : Renames image statement other)
    (each : ∀ expression, Mirrors id (evaluate expression)
      (evaluateOther (expression.mapColumns image))) :
    Mirrors id (orderedRow statement evaluate) (orderedRow other evaluateOther) := by
  have values : Alike (List.Forall₂ fun value result => result = value)
      (statement.projections.mapM fun projection => evaluate projection.expression)
      (other.projections.mapM fun projection => evaluateOther projection.expression) := by
    refine Alike.mapM renames.projected fun before after same => ?_
    rw [same]
    exact each before.expression
  refine values.bind fun cells others _ areSame => ?_
  obtain rfl : others = cells := (List.forall₂_eq_eq_eq ▸ areSame.flip : others = cells)
  refine Mirrors.bind (?_ : Mirrors id _ _) fun sorted _ => Mirrors.refl _
  rw [renames.orderBy, List.mapM_map]
  refine Mirrors.mapM_id fun key isKey => ?_
  have isColumn := renames.qualified key isKey
  have isOtherColumn : (key.expression.mapColumns image).IsColumn := by
    obtain ⟨table, name, same⟩ := isColumn
    exact ⟨table, image name, by rw [same]; rfl⟩
  dsimp only [Function.comp_apply]
  rw [projectedKey?_of_isColumn isColumn, projectedKey?_of_isColumn isOtherColumn]
  exact each key.expression

variable {joined : Joined}

theorem mirrors_answerRows (renames : Renames image statement other)
    (injective : Function.Injective image) (rows : List (List Cell)) :
    Mirrors id (joined.answerRows statement rows)
      (Joined.answerRows ⟨joined.scope.mapColumns image, joined.rows⟩ other rows) := by
  unfold Joined.answerRows
  rw [renames.isAggregate, renames.groupBy]
  split
  · refine (Scope.mirrors_group injective joined.scope statement.groupBy rows).bind
      fun groups _ => Mirrors.mapM_id fun group _ => ?_
    exact renames.mirrors_orderedRow
      (Group.mirrors_evaluate joined.scope statement.groupBy group injective)
  · refine Mirrors.mapM_id fun row _ => ?_
    exact renames.mirrors_orderedRow (Scope.mirrors_evaluate injective joined.scope row)

/-- The statement is answered with the rows from before by a database whose columns have the names
of the statement. -/
theorem alike_answer (renames : Renames image statement other)
    (injective : Function.Injective image) {database otherDatabase : Database}
    {columns : List Column} {rows : List (List Cell)}
    (found : database.table statement.source.name = .ok ⟨columns, rows⟩)
    (foundOther : otherDatabase.table statement.source.name =
      .ok ⟨columns.map (mapName image), rows⟩) :
    Alike (fun answer result => result.rows = answer.rows) (database.answer statement)
      (otherDatabase.answer other) := by
  let joined : Joined := ⟨[⟨statement.source.binding, columns⟩], rows⟩
  have source : database.source statement = .ok joined := by
    rw [Database.source, found, renames.unjoined.1]
    rfl
  have sourceOther : otherDatabase.source other =
      .ok ⟨joined.scope.mapColumns image, joined.rows⟩ := by
    rw [Database.source, renames.source, foundOther, renames.unjoined.2]
    rfl
  unfold Database.answer
  rw [source, sourceOther, ok_bind, ok_bind]
  dsimp only
  rw [renames.filter]
  refine (Scope.mirrors_filter injective joined.scope statement.filter rows).bind
    fun kept _ => ?_
  have described : Alike (List.Forall₂ fun _ _ => True)
      (statement.projections.mapM joined.scope.columnOf)
      (other.projections.mapM (joined.scope.mapColumns image).columnOf) := by
    refine Alike.mapM renames.projected fun before after same => ?_
    unfold Scope.columnOf
    rw [same]
    exact (Scope.mirrors_typeOf injective joined.scope before.expression).bind
      fun type _ => .ok trivial
  refine described.bind fun _ _ _ _ => ?_
  refine (renames.mirrors_answerRows injective kept).bind fun answer _ => .ok ?_
  have sameOrder : sortRows other.orderBy answer = sortRows statement.orderBy answer := by
    unfold sortRows
    simp only [renames.orderBy, compareKeys_mapColumns]
  rw [id_eq, sameOrder, renames.window.1, renames.window.2]

end Renames

end Relational

end CrossQuery
