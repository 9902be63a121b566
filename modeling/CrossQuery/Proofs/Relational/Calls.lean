import CrossQuery.Proofs.Relational.Conditions
import CrossQuery.Proofs.Select.Parsed
import CrossQuery.Relational.Answer

/-!
# Calls of aggregates

Reading a statement checks every call in it. However deep it stands in whatever clause, an aggregate
that is read is one of five and has one argument, and a wildcard that is read is the argument of
`COUNT`. Evaluation has refusals for a wildcard that is not counted, for an aggregate without an
argument and for an aggregate that there is not, but no text is refused for one of them.
-/

set_option autoImplicit false

namespace CrossQuery.Select

/-! ## Calls at every depth -/

namespace Expression

/-- The expressions that an expression is directly made of. -/
def parts : Expression → List Expression
  | .column _ _ => []
  | .literal _ => []
  | .binary _ left right => [left, right]
  | .unary _ operand => [operand]
  | .aggregate _ arguments _ => arguments
  | .inList operand items _ => operand :: items
  | .between operand least greatest _ => [operand, least, greatest]
  | .isNull operand _ => [operand]
  | .cast operand _ => [operand]
  | .wildcard => []
  | .nested inner => [inner]

/-- An expression that stands in another one, at whatever depth, or is the other one. -/
inductive Within : Expression → Expression → Prop where
  | itself {expression : Expression} : Within expression expression
  | part {inner part whole : Expression} :
      part ∈ whole.parts → Within inner part → Within inner whole

/-- Aggregates are called by their names with one argument each, and a wildcard is nothing but the
argument of `COUNT`. All parts are checked, so a wildcard by itself is not well called. -/
inductive WellCalled : Expression → Prop where
  | column {table : Option String} {name : String} : WellCalled (.column table name)
  | literal {value : Literal} : WellCalled (.literal value)
  | binary {operator : BinaryOperator} {left right : Expression} :
      WellCalled left → WellCalled right → WellCalled (.binary operator left right)
  | unary {operator : UnaryOperator} {operand : Expression} :
      WellCalled operand → WellCalled (.unary operator operand)
  | count {distinct : Bool} : WellCalled (.aggregate "COUNT" [.wildcard] distinct)
  | aggregate {name : String} {argument : Expression} {distinct : Bool} :
      name ∈ aggregateNames → WellCalled argument → WellCalled (.aggregate name [argument] distinct)
  | inList {operand : Expression} {items : List Expression} {negated : Bool} :
      WellCalled operand → (∀ item ∈ items, WellCalled item) →
      WellCalled (.inList operand items negated)
  | between {operand least greatest : Expression} {negated : Bool} :
      WellCalled operand → WellCalled least → WellCalled greatest →
      WellCalled (.between operand least greatest negated)
  | isNull {operand : Expression} {negated : Bool} :
      WellCalled operand → WellCalled (.isNull operand negated)
  | cast {operand : Expression} {type : String} :
      WellCalled operand → WellCalled (.cast operand type)
  | nested {inner : Expression} : WellCalled inner → WellCalled (.nested inner)

variable {inner part whole : Expression}

theorem WellCalled.cases_part (called : whole.WellCalled) (isPart : part ∈ whole.parts) :
    part.WellCalled ∨
      part = .wildcard ∧ ∃ distinct, whole = .aggregate "COUNT" [.wildcard] distinct := by
  cases called with
  | column | literal => cases isPart
  | count => exact .inr ⟨List.mem_singleton.mp isPart, _, rfl⟩
  | unary only | isNull only | cast only | nested only | aggregate _ only =>
      exact .inl (List.mem_singleton.mp isPart ▸ only)
  | binary left right =>
      simp only [parts, List.mem_cons, List.not_mem_nil, or_false] at isPart
      rcases isPart with rfl | rfl
      · exact .inl left
      · exact .inl right
  | inList operand items => exact .inl (List.forall_mem_cons.mpr ⟨operand, items⟩ part isPart)
  | between operand least greatest =>
      simp only [parts, List.mem_cons, List.not_mem_nil, or_false] at isPart
      rcases isPart with rfl | rfl | rfl
      · exact .inl operand
      · exact .inl least
      · exact .inl greatest

/-- What stands in a well called expression is well called, or a wildcard that is counted. -/
theorem Within.cases_wellCalled (within : inner.Within whole) (called : whole.WellCalled) :
    inner.WellCalled ∨ inner = .wildcard := by
  induction within with
  | itself => exact .inl called
  | part isPart inside ih =>
      rcases called.cases_part isPart with called | ⟨rfl, -⟩
      · exact ih called
      · cases inside with
        | itself => exact .inr rfl
        | part none _ => cases none

end Expression

/-- Where aggregates and wildcards stand in a statement, at every depth of every clause. -/
structure Statement.WellCalled (statement : Statement) : Prop where
  notWildcard : ∀ clause ∈ statement.expressions, clause ≠ .wildcard
  wildcard : ∀ clause ∈ statement.expressions, ∀ whole : Expression, whole.Within clause →
    .wildcard ∈ whole.parts → ∃ distinct, whole = .aggregate "COUNT" [.wildcard] distinct
  aggregate : ∀ clause ∈ statement.expressions, ∀ name arguments distinct,
    Expression.Within (.aggregate name arguments distinct) clause →
      name ∈ ["COUNT", "SUM", "AVG", "MIN", "MAX"] ∧ arguments.length = 1

theorem Statement.wellCalled_of_expressions {statement : Statement}
    (each : ∀ clause ∈ statement.expressions, clause.WellCalled) : statement.WellCalled where
  notWildcard clause member := by
    rintro rfl
    cases each _ member
  wildcard clause member whole within isPart := by
    rcases within.cases_wellCalled (each clause member) with called | rfl
    · exact ((called.cases_part isPart).resolve_left nofun).2
    · cases isPart
  aggregate clause member name arguments distinct within := by
    cases (within.cases_wellCalled (each clause member)).resolve_right nofun with
    | count => exact ⟨List.mem_cons_self, rfl⟩
    | aggregate isName => exact ⟨isName, rfl⟩

/-! ## Calls that are read -/

mutual

/-- What a tree stands for is well called. A star is read among arguments only. -/
theorem wellCalled_of_readTree : (tree : Tree) → {expression : Expression} →
    readTree tree = .ok expression → expression.WellCalled
  | .identifier _, _, read => by
      cases read
      exact .column
  | .path parts, _, read => by
      change readPath parts = .ok _ at read
      unfold readPath at read
      split at read <;> cases read <;> exact .column
  | .number _ _, _, read => by
      obtain ⟨_, _, rfl⟩ := readTree_number_iff.mp read
      exact .literal
  | .text _, _, read | .boolean _, _, read | .null, _, read => by
      cases read
      exact .literal
  | .constant _, _, read | .star, _, read | .argument _, _, read | .unsupported _, _, read => by
      cases read
  | .binary _ left right, _, read => by
      obtain ⟨_, _, _, _, isLeft, isRight, rfl⟩ := readTree_binary_iff.mp read
      exact .binary (wellCalled_of_readTree left isLeft) (wellCalled_of_readTree right isRight)
  | .unary _ operand, _, read => by
      obtain ⟨_, _, _, isOperand, rfl⟩ := readTree_unary_iff.mp read
      exact .unary (wellCalled_of_readTree operand isOperand)
  | .call name none distinct windowed, _, read =>
      absurd read (readTree_bareCall name distinct windowed)
  | .call _ (some arguments) _ _, _, read => by
      obtain ⟨-, _, _, -, isName, areRead, isAggregate⟩ := readTree_call_iff.mp read
      rcases Tree.cases_readAggregate isAggregate with ⟨-, rfl⟩ | ⟨argument, notWildcard, rfl, rfl⟩
      · exact .count
      · have called := wellCalled_of_readArguments arguments areRead argument List.mem_cons_self
        exact .aggregate isName (called.resolve_right notWildcard)
  | .inList operand items _, _, read => by
      obtain ⟨_, _, isOperand, areItems, rfl⟩ := readTree_inList_iff.mp read
      exact .inList (wellCalled_of_readTree operand isOperand) (wellCalled_of_readTrees items areItems)
  | .between operand least greatest _, _, read => by
      obtain ⟨_, _, _, isOperand, isLeast, isGreatest, rfl⟩ := readTree_between_iff.mp read
      exact .between (wellCalled_of_readTree operand isOperand)
        (wellCalled_of_readTree least isLeast) (wellCalled_of_readTree greatest isGreatest)
  | .isNull operand _, _, read => by
      obtain ⟨_, isOperand, rfl⟩ := readTree_isNull_iff.mp read
      exact .isNull (wellCalled_of_readTree operand isOperand)
  | .cast operand _ _, _, read => by
      obtain ⟨_, isOperand, rfl⟩ := readTree_cast_iff.mp read
      exact .cast (wellCalled_of_readTree operand isOperand)
  | .like operand pattern _ _, _, read => by
      obtain ⟨_, _, spelled, isOperand, isPattern, isSpelled, rfl⟩ := readTree_like_iff.mp read
      have called : spelled.WellCalled := by
        rcases Tree.cases_readPattern isSpelled with rfl | ⟨text, rfl⟩
        · exact wellCalled_of_readTree pattern isPattern
        · exact .literal
      exact .binary (wellCalled_of_readTree operand isOperand) called
  | .nested inner, _, read => by
      obtain ⟨_, isInner, rfl⟩ := readTree_nested_iff.mp read
      exact .nested (wellCalled_of_readTree inner isInner)

theorem wellCalled_of_readTrees : (trees : List Tree) → {expressions : List Expression} →
    readTrees trees = .ok expressions → ∀ expression ∈ expressions, expression.WellCalled
  | [], _, read => by
      cases read
      exact nofun
  | first :: rest, _, read => by
      obtain ⟨_, isFirst, read⟩ := Outcome.bind_eq_ok.mp read
      obtain ⟨_, areRest, read⟩ := Outcome.bind_eq_ok.mp read
      cases read
      exact List.forall_mem_cons.mpr
        ⟨wellCalled_of_readTree first isFirst, wellCalled_of_readTrees rest areRest⟩

theorem wellCalled_of_readArguments : (arguments : List Tree) → {expressions : List Expression} →
    readArguments arguments = .ok expressions →
    ∀ expression ∈ expressions, expression.WellCalled ∨ expression = .wildcard
  | [], _, read => by
      cases read
      exact nofun
  | first :: rest, _, read => by
      obtain ⟨argument, others, rfl, isFirst, areRest⟩ := Tree.exists_of_readArguments read
      refine List.forall_mem_cons.mpr ⟨?_, wellCalled_of_readArguments rest areRest⟩
      rcases isFirst with isWildcard | isRead
      · exact .inr isWildcard
      · exact .inl (wellCalled_of_readTree first isRead)

end

theorem wellCalled_of_parse {text : String} {statement : Statement}
    (parsed : Statement.parse text = .ok statement) :
    ∀ clause ∈ statement.expressions, clause.WellCalled := by
  intro clause member
  obtain ⟨_, _, query, _, _, _, read⟩ := exists_query_of_parse parsed
  obtain ⟨tree, -, isRead⟩ := exists_tree_of_readQuery read member
  exact wellCalled_of_readTree tree isRead

end CrossQuery.Select

namespace CrossQuery.Relational

open Select

/-! ## Refusals of calls -/

/-- A refusal for a call that means nothing. -/
inductive Refusal.Miscall : Refusal → Prop where
  | wildcard : Miscall .wildcardMisplaced
  | noArgument (function : String) : Miscall (.noArgument function)
  | noFunction (name : String) : Miscall (.noFunction name)

/-- An outcome that is refused, if at all, for something else than a call. -/
abbrev NoMiscall {α : Type} (outcome : Except Refusal α) : Prop :=
  Outcome.FailsOnly (fun refusal => ¬ refusal.Miscall) outcome

/-! ## Operations -/

theorem noMiscall_truthOfCell (cell : Cell) : NoMiscall (truthOfCell cell) := by
  unfold truthOfCell
  split
  · exact .ok _
  · exact .ok _
  · exact .error nofun

theorem noMiscall_compareTruth (comparison : Comparison) (left right : Cell) :
    NoMiscall (compareTruth comparison left right) := by
  unfold compareTruth
  split
  · exact .ok _
  split
  · exact .ok _
  · exact .error nofun

theorem noMiscall_likeTruth (cell pattern : Cell) : NoMiscall (likeTruth cell pattern) := by
  unfold likeTruth
  split
  · exact .ok _
  split
  · exact .ok _
  · exact .error nofun

theorem noMiscall_operate (operator : BinaryOperator) (left right : Cell) :
    NoMiscall (operate operator left right) := by
  cases operator with
  | compare comparison => exact noMiscall_compareTruth comparison left right
  | and | or =>
      exact (noMiscall_truthOfCell left).bind fun _ =>
        (noMiscall_truthOfCell right).bind fun _ => .ok _
  | like => exact noMiscall_likeTruth left right
  | notLike => exact (noMiscall_likeTruth left right).bind fun _ => .ok _

theorem noMiscall_operateUnary (operator : UnaryOperator) (cell : Cell) :
    NoMiscall (operateUnary operator cell) := by
  cases operator with
  | not => exact (noMiscall_truthOfCell cell).bind fun _ => .ok _
  | minus =>
      change NoMiscall (negate cell)
      unfold negate
      repeat (first | exact .ok _ | exact .error nofun | split)

theorem noMiscall_betweenTruth (cell least greatest : Cell) (negated : Bool) :
    NoMiscall (betweenTruth cell least greatest negated) :=
  (noMiscall_compareTruth .greaterOrEqual cell least).bind fun _ =>
    (noMiscall_compareTruth .lessOrEqual cell greatest).bind fun _ => .ok _

theorem noMiscall_toInteger (cell : Cell) : NoMiscall (toInteger cell) := by
  unfold toInteger
  repeat (first | exact .ok _ | exact .error nofun | split)

theorem noMiscall_toFloat (cell : Cell) : NoMiscall (toFloat cell) := by
  unfold toFloat
  repeat (first | exact .ok _ | exact .error nofun | split)

theorem noMiscall_toDate (cell : Cell) : NoMiscall (toDate cell) := by
  unfold toDate
  repeat (first | exact .ok _ | exact .error nofun | split)

theorem noMiscall_toTimestamp (cell : Cell) : NoMiscall (toTimestamp cell) := by
  unfold toTimestamp
  repeat (first | exact .ok _ | exact .error nofun | split)

theorem noMiscall_convert (cell : Cell) (type : String) : NoMiscall (convert cell type) := by
  have narrowed : NoMiscall (do
      let value ← toInteger cell
      if Cell.fitsInt32 value then return .int32 (Int32.ofInt value) else throw .outOfRange :
        Except Refusal Cell) := by
    refine (noMiscall_toInteger cell).bind fun value => ?_
    split
    · exact .ok _
    · exact .error nofun
  unfold convert
  split
  · exact .ok _
  split
  · exact (noMiscall_toInteger cell).bind fun _ => .ok _
  · exact narrowed
  · exact narrowed
  iterate 4 exact (noMiscall_toFloat cell).bind fun _ => .ok _
  · exact noMiscall_toDate cell
  · exact noMiscall_toTimestamp cell
  · exact .ok _
  · exact .ok _
  · exact .error nofun

/-! ## Aggregates of cells -/

theorem noMiscall_sumIntegers (total : Int) (values : List Int) :
    NoMiscall (sumIntegers total values) := by
  induction values generalizing total with
  | nil => exact .ok total
  | cons value rest ih =>
      rw [sumIntegers]
      split
      · exact ih _
      · exact .error nofun

theorem noMiscall_sumFloats (total : Float) (cells : List Cell) :
    NoMiscall (sumFloats total cells) := by
  induction cells generalizing total with
  | nil => exact .ok total
  | cons cell rest ih =>
      rw [sumFloats]
      split
      · exact ih _
      · exact .error nofun

theorem noMiscall_sum (cells : List Cell) : NoMiscall (sum cells) := by
  unfold sum
  split
  · exact .ok _
  split
  · exact (noMiscall_sumIntegers 0 _).bind fun _ => .ok _
  · exact (noMiscall_sumFloats 0 cells).bind fun _ => .ok _

theorem noMiscall_average (cells : List Cell) : NoMiscall (average cells) := by
  refine (noMiscall_sum cells).bind fun total => ?_
  split
  · exact .ok _
  · exact .ok _

theorem noMiscall_summarise {name : String} (isName : name ∈ aggregateNames) (cells : List Cell) :
    NoMiscall (summarise name cells) := by
  simp only [aggregateNames, List.mem_cons, List.not_mem_nil, or_false] at isName
  rcases isName with rfl | rfl | rfl | rfl | rfl
  · exact .ok _
  · exact noMiscall_sum cells
  · exact noMiscall_average cells
  · exact .ok _
  · exact .ok _

/-! ## Expressions -/

theorem noMiscall_resolve (scope : Scope) (table : Option String) (name : String) :
    NoMiscall (scope.resolve table name) := by
  unfold Scope.resolve
  split
  · exact .error nofun
  · exact .ok _
  · exact .error nofun

mutual

/-- Only a column can keep an expression from having a type, whatever is called in it. -/
theorem noMiscall_typeOf (scope : Scope) : (expression : Expression) →
    NoMiscall (scope.typeOf expression)
  | .column table name => by
      rw [Scope.typeOf]
      exact (noMiscall_resolve scope table name).bind fun _ => .ok _
  | .aggregate name arguments _ => by
      by_cases isCount : name = "COUNT"
      · subst isCount
        exact .ok _
      by_cases isMean : name = "AVG"
      · subst isMean
        exact .ok _
      rw [Scope.typeOf]
      · exact noMiscall_typeOfFirst scope arguments
      all_goals assumption
  | .nested inner => noMiscall_typeOf scope inner
  | .unary .minus operand => noMiscall_typeOf scope operand
  | .literal value => by cases value <;> exact .ok _
  | .unary .not _ | .cast _ _ | .wildcard | .binary _ _ _ | .inList _ _ _ | .between _ _ _ _
  | .isNull _ _ => .ok _

theorem noMiscall_typeOfFirst (scope : Scope) : (expressions : List Expression) →
    NoMiscall (scope.typeOfFirst expressions)
  | [] => .ok _
  | first :: _ => noMiscall_typeOf scope first

end

variable {scope : Scope} {expression : Expression}

/-- Evaluation on a row stops at an aggregate, so it does not come to a wildcard that is counted. -/
theorem noMiscall_evaluate (called : expression.WellCalled) (row : List Cell) :
    NoMiscall (scope.evaluate row expression) := by
  induction called with
  | column => exact (noMiscall_resolve scope _ _).bind fun _ => .ok _
  | literal => exact .ok _
  | binary _ _ left right =>
      exact left.bind fun _ => right.bind fun _ => (noMiscall_operate _ _ _).bind fun _ => .ok _
  | unary _ operand => exact operand.bind fun _ => noMiscall_operateUnary _ _
  | count | aggregate => exact .error nofun
  | inList _ _ operand items =>
      refine operand.bind fun _ => .bind ?_ fun _ => .ok _
      rw [Scope.evaluateAll_eq_mapM]
      exact .mapM items
  | between _ _ _ operand least greatest =>
      exact operand.bind fun _ => least.bind fun _ => greatest.bind fun _ =>
        (noMiscall_betweenTruth _ _ _ _).bind fun _ => .ok _
  | isNull _ operand => exact operand.bind fun _ => .ok _
  | cast _ operand => exact operand.bind fun _ => noMiscall_convert _ _
  | nested _ inner => exact inner

section Groups

variable {group : Group} {groupBy : List Expression}

theorem noMiscall_aggregate {name : String} {arguments : List Expression} {distinct : Bool}
    (called : (Expression.aggregate name arguments distinct).WellCalled) :
    NoMiscall (group.aggregate scope name arguments distinct) := by
  cases called with
  | count => exact .ok _
  | aggregate isName called =>
      rw [Group.aggregate]
      split
      · exact .ok _
      · exact .bind (.mapM fun row _ => noMiscall_evaluate called row) fun _ =>
          noMiscall_summarise isName _

theorem noMiscall_keyOr {otherwise : Except Refusal Cell} (other : NoMiscall otherwise) :
    NoMiscall (group.keyOr groupBy expression otherwise) := by
  unfold Group.keyOr
  split
  · exact .ok _
  · exact other

theorem noMiscall_evaluateGroup (called : expression.WellCalled) :
    NoMiscall (group.evaluate scope groupBy expression) := by
  induction called with
  | column | inList | between | isNull => exact noMiscall_keyOr (.error nofun)
  | literal => exact noMiscall_keyOr (.ok _)
  | binary _ _ left right =>
      exact noMiscall_keyOr (left.bind fun _ => right.bind fun _ =>
        (noMiscall_operate _ _ _).bind fun _ => .ok _)
  | unary _ operand => exact noMiscall_keyOr (operand.bind fun _ => noMiscall_operateUnary _ _)
  | count => exact noMiscall_keyOr (noMiscall_aggregate .count)
  | aggregate isName called _ =>
      exact noMiscall_keyOr (noMiscall_aggregate (.aggregate isName called))
  | cast _ operand => exact noMiscall_keyOr (operand.bind fun _ => noMiscall_convert _ _)
  | nested _ inner => exact noMiscall_keyOr inner

end Groups

/-! ## Statements -/

theorem noMiscall_holding {condition : Expression} (called : condition.WellCalled)
    (rows : List (List Cell)) : NoMiscall (scope.holding condition rows) := by
  induction rows with
  | nil => exact .ok []
  | cons row rest ih =>
      have truth : NoMiscall (scope.truth condition row) :=
        (noMiscall_evaluate called row).bind noMiscall_truthOfCell
      exact truth.bind fun _ => ih.bind fun _ => .ok _

theorem noMiscall_table (database : Database) (name : String) :
    NoMiscall (database.table name) := by
  unfold Database.table
  split
  · exact .ok _
  · exact .error nofun

theorem noMiscall_join (database : Database) (joined : Joined) {join : Join}
    (called : join.condition.WellCalled) : NoMiscall (database.join joined join) :=
  (noMiscall_table database join.table.name).bind fun _ =>
    .bind (.mapM fun _ _ => (noMiscall_holding called _).bind fun _ => .ok _) fun _ => .ok _

theorem noMiscall_source (database : Database) {statement : Statement}
    (called : ∀ join ∈ statement.joins, join.condition.WellCalled) :
    NoMiscall (database.source statement) :=
  (noMiscall_table database statement.source.name).bind fun _ =>
    .foldlM (fun join member joined => noMiscall_join database joined (called join member)) _

theorem noMiscall_filter {condition : Option Expression}
    (called : ∀ expression ∈ condition, expression.WellCalled) (rows : List (List Cell)) :
    NoMiscall (scope.filter condition rows) := by
  cases condition with
  | none => exact .ok rows
  | some condition => exact noMiscall_holding (called condition rfl) rows

theorem noMiscall_group {groupBy : List Expression}
    (called : ∀ expression ∈ groupBy, expression.WellCalled) (rows : List (List Cell)) :
    NoMiscall (scope.group groupBy rows) := by
  unfold Scope.group
  split
  · exact .ok _
  · refine .bind (.mapM fun row _ => .bind ?_ fun _ => .ok _) fun _ => .ok _
    rw [Scope.evaluateAll_eq_mapM]
    exact .mapM fun expression member => noMiscall_evaluate (called expression member) row

theorem noMiscall_orderedRow {statement : Statement} {evaluate : Expression → Except Refusal Cell}
    (values : ∀ projection ∈ statement.projections, NoMiscall (evaluate projection.expression))
    (keys : ∀ key ∈ statement.orderBy, NoMiscall (evaluate key.expression)) :
    NoMiscall (orderedRow statement evaluate) := by
  refine .bind (.mapM values) fun _ => .bind (.mapM fun key member => ?_) fun _ => .ok _
  split
  · exact .ok _
  · exact keys key member

section Answer

variable {statement : Statement} (called : ∀ clause ∈ statement.expressions, clause.WellCalled)

include called

theorem noMiscall_answerRows (joined : Joined) (rows : List (List Cell)) :
    NoMiscall (joined.answerRows statement rows) := by
  have row {evaluate : Expression → Except Refusal Cell}
      (each : ∀ clause : Expression, clause.WellCalled → NoMiscall (evaluate clause)) :
      NoMiscall (orderedRow statement evaluate) :=
    noMiscall_orderedRow
      (fun _ member => each _ (called _ (Statement.mem_expressions_of_projection member)))
      (fun _ member => each _ (called _ (Statement.mem_expressions_of_order member)))
  unfold Joined.answerRows
  split
  · refine .bind (noMiscall_group (fun _ member => ?_) rows) fun groups => ?_
    · exact called _ (Statement.mem_expressions_of_group member)
    · exact .mapM fun _ _ => row fun _ => noMiscall_evaluateGroup
  · exact .mapM fun cells _ => row fun _ called => noMiscall_evaluate called cells

theorem noMiscall_answer (database : Database) : NoMiscall (database.answer statement) := by
  refine .bind (noMiscall_source database fun _ member => ?_) fun joined => ?_
  · exact called _ (Statement.mem_expressions_of_join member)
  refine .bind (noMiscall_filter (fun _ member => ?_) joined.rows) fun rows => ?_
  · exact called _ (Statement.mem_expressions_of_filter member)
  refine .bind (.mapM fun projection _ => ?_) fun columns => ?_
  · exact (noMiscall_typeOf joined.scope projection.expression).bind fun _ => .ok _
  · exact (noMiscall_answerRows called joined rows).bind fun _ => .ok _

end Answer

theorem noMiscall_execute (database : Database) (text : String) :
    NoMiscall (database.execute text) := by
  unfold Database.execute
  split
  · next statement parsed => exact noMiscall_answer (wellCalled_of_parse parsed) database
  · exact .error nofun

/-! ## Messages -/

/-- How the messages of the refusals begin that are not for a call. -/
def openings : List String :=
  ["Syntax error in SQL statement: ", "Table \"", "Column count does not match: table \"",
    "Column \"", "Ambiguous column name \"", "Cannot compare ", "Expected a boolean, found ",
    "LIKE pattern must be a string", "Cannot negate ", "Numeric value out of range",
    "SUM requires numbers, found ", "Data conversion error converting \"",
    "Unknown data type: \"", "Aggregate function ",
    "Expression not supported in an aggregate query"]

/-- How the messages of the refusals for calls begin. -/
def miscallOpenings : List String :=
  "Wildcard not allowed here" :: "Function \"" ::
    ["COUNT", "SUM", "AVG", "MIN", "MAX"].map fun name => name ++ " requires an argument"

theorem openings_apart : ∀ opening ∈ openings, ∀ other ∈ miscallOpenings,
    ¬ opening.toList <+: other.toList ∧ ¬ other.toList <+: opening.toList := by
  decide +kernel

theorem Refusal.exists_opening {refusal : Refusal} (noMiscall : ¬ refusal.Miscall) :
    ∃ opening ∈ openings, ∃ rest, refusal.message = opening ++ rest := by
  cases refusal with
  | wildcardMisplaced => exact absurd .wildcard noMiscall
  | noArgument function => exact absurd (.noArgument function) noMiscall
  | noFunction name => exact absurd (.noFunction name) noMiscall
  | notPattern | outOfRange | notForGroups =>
      refine ⟨_, ?_, "", String.append_empty.symm⟩
      decide
  | malformed | notTruth | notNegatable | notSummable =>
      refine ⟨_, ?_, _, rfl⟩
      decide
  | noTable | noColumn | ambiguousColumn | notConvertible | noType | aggregateMisplaced
  | notGrouped =>
      refine ⟨_, ?_, _, String.append_assoc⟩
      decide
  | incomparable left right =>
      refine ⟨"Cannot compare ", by decide, left.display ++ " with " ++ right.display, ?_⟩
      rw [← String.append_assoc, ← String.append_assoc]
      rfl
  | rowWidth table expected found =>
      refine ⟨"Column count does not match: table \"", by decide, table ++ "\" has " ++
        String.ofList (Text.writeNat expected) ++ " columns, row has " ++
        String.ofList (Text.writeNat found), ?_⟩
      simp only [← String.append_assoc]
      rfl

theorem Refusal.message_ne {refusal : Refusal} (noMiscall : ¬ refusal.Miscall) {other : String}
    (isOther : other ∈ miscallOpenings) (rest : String) : refusal.message ≠ other ++ rest := by
  obtain ⟨opening, isOpening, behind, isMessage⟩ := Refusal.exists_opening noMiscall
  obtain ⟨notBefore, notBehind⟩ := openings_apart opening isOpening other isOther
  intro same
  have characters : opening.toList ++ behind.toList = other.toList ++ rest.toList := by
    rw [← String.toList_append, ← String.toList_append, ← isMessage, same]
  have begins : other.toList <+: opening.toList ++ behind.toList := ⟨rest.toList, characters.symm⟩
  rcases List.prefix_or_prefix_of_prefix (List.prefix_append _ _) begins with before | before
  · exact notBefore before
  · exact notBehind before

/-- In a statement in text form all calls mean something, at every depth of every clause. So no text
is refused for a wildcard that is not counted, for an aggregate without an argument or for one that
there is not. No message of another cause reads like one of theirs. -/
theorem Database.execute_without_miscalls (database : Database) (text : String) :
    (∀ statement, Statement.parse text = .ok statement → statement.WellCalled) ∧
      ∀ refusal, database.execute text = .error refusal →
        ¬ refusal.Miscall ∧ refusal.message ≠ "Wildcard not allowed here" ∧
          (∀ name ∈ ["COUNT", "SUM", "AVG", "MIN", "MAX"],
            refusal.message ≠ name ++ " requires an argument") ∧
          ∀ name, refusal.message ≠ "Function \"" ++ name ++ "\" not found" := by
  refine ⟨fun statement parsed => Statement.wellCalled_of_expressions (wellCalled_of_parse parsed),
    fun refusal refused => ?_⟩
  have noMiscall := noMiscall_execute database text refusal refused
  have whole : ∀ other ∈ miscallOpenings, refusal.message ≠ other := by
    intro other isOther
    have different := Refusal.message_ne noMiscall isOther ""
    rwa [String.append_empty] at different
  refine ⟨noMiscall, whole _ List.mem_cons_self, fun name isName => whole _ ?_, fun name => ?_⟩
  · exact List.mem_cons_of_mem _ (List.mem_cons_of_mem _ (List.mem_map_of_mem isName))
  · rw [String.append_assoc]
    exact Refusal.message_ne noMiscall (List.mem_cons_of_mem _ List.mem_cons_self) _

/-- Visits with their numbers. -/
def numberedVisits : Database :=
  ⟨[("VISITS", ⟨[⟨"ID", "BIGINT"⟩], [[.int64 1], [.int64 2]]⟩)]⟩

/-- A count of different rows, and an aggregate inside of another one. -/
def nestedAggregate : String :=
  "SELECT COUNT(DISTINCT *) AS n, -(sum(MAX(\"ID\"))) FROM \"VISITS\""

theorem nestedAggregate_without_miscalls :
    (∃ statement, Statement.parse nestedAggregate = .ok statement ∧ statement.WellCalled) ∧
      ∃ refusal, numberedVisits.execute nestedAggregate = .error refusal ∧
        refusal.message = "Aggregate function MAX not allowed here" ∧ ¬ refusal.Miscall := by
  obtain ⟨called, refused⟩ := Database.execute_without_miscalls numberedVisits nestedAggregate
  have parses : (Statement.parse nestedAggregate).isOk = true := by decide +kernel
  have stops : (match numberedVisits.execute nestedAggregate with
      | .error (.aggregateMisplaced name) => name == "MAX"
      | _ => false) = true := by decide +kernel
  obtain ⟨statement, parsed⟩ := Outcome.exists_of_isOk parses
  refine ⟨⟨statement, parsed, called statement parsed⟩, ?_⟩
  split at stops
  · next name isRefused =>
      obtain rfl := eq_of_beq stops
      exact ⟨_, isRefused, rfl, (refused _ isRefused).1⟩
  · cases stops

/-- A statement that is not read from a text can be refused for each of these causes. -/
example :
    let database : Database := ⟨[("VISITS", ⟨[⟨"ID", "BIGINT"⟩], [[.int64 1]]⟩)]⟩
    let statement (expression : Expression) : Statement :=
      ⟨[⟨expression, none⟩], ⟨"VISITS", none⟩, [], none, [], [], none, none⟩
    database.answer (statement .wildcard) = .error .wildcardMisplaced ∧
      database.answer (statement (.aggregate "SUM" [] false)) = .error (.noArgument "SUM") ∧
      database.answer (statement (.aggregate "ANY" [.column none "ID"] false)) =
        .error (.noFunction "ANY") :=
  ⟨rfl, rfl, rfl⟩

end CrossQuery.Relational
