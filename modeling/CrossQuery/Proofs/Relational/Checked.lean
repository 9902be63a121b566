import CrossQuery.Proofs.Relational.Counted
import CrossQuery.Proofs.Relational.Joined

/-!
# Cells that are read

A column is read at its place in a row, and where the row ends before that place null is read. The
rows of a database are as wide as its tables, and a join widens rows as it widens their scope. So no
column is ever read behind the end of a row: an evaluator that fails on a row of another width than
its scope, and at a place where no cell is, answers every statement as the database does.
-/

set_option autoImplicit false

namespace CrossQuery.Relational

open Select

/-- A way to find the value of an expression on a row. -/
abbrev Evaluator := Scope → List Cell → Expression → Except Refusal Cell

/-!
## Answers by an evaluator

The answer to a statement with a given evaluator at every place where the value of an expression on
a row is asked for.
-/

namespace Evaluator

variable (evaluator : Evaluator)

def truth (scope : Scope) (condition : Expression) (row : List Cell) : Except Refusal Truth := do
  truthOfCell (← evaluator scope row condition)

def holding (scope : Scope) (condition : Expression) :
    List (List Cell) → Except Refusal (List (List Cell))
  | [] => .ok []
  | row :: rest => do
    let truth ← evaluator.truth scope condition row
    let kept ← holding scope condition rest
    return if truth.holds then row :: kept else kept

def joinRow (scope : Scope) (join : Join) (others : List (List Cell)) (row : List Cell) :
    Except Refusal (List (List Cell)) := do
  let joined ← evaluator.holding scope join.condition (others.map fun other => row ++ other)
  return if joined.isEmpty && join.kind == .left then [padded scope.width row] else joined

def join (database : Database) (joined : Joined) (join : Join) : Except Refusal Joined := do
  let table ← database.table join.table.name
  let scope := joined.scope ++ [⟨join.table.binding, table.columns⟩]
  let rows ← joined.rows.mapM (evaluator.joinRow scope join table.rows)
  return ⟨scope, rows.flatten⟩

def source (database : Database) (statement : Statement) : Except Refusal Joined := do
  let table ← database.table statement.source.name
  statement.joins.foldlM (evaluator.join database)
    ⟨[⟨statement.source.binding, table.columns⟩], table.rows⟩

def filter (scope : Scope) (condition : Option Expression) (rows : List (List Cell)) :
    Except Refusal (List (List Cell)) :=
  match condition with
  | none => .ok rows
  | some condition => evaluator.holding scope condition rows

def group (scope : Scope) (groupBy : List Expression) (rows : List (List Cell)) :
    Except Refusal (List Group) :=
  if groupBy.isEmpty then .ok [⟨[], rows⟩]
  else do
    let keyed ← rows.mapM fun row => do return (← groupBy.mapM (evaluator scope row), row)
    return (Grouping.groups (fun entry => entry.1.map Cell.groupKey) keyed).map fun group =>
      ⟨group.1.1, group.2.map Prod.snd⟩

def aggregate (scope : Scope) (group : Group) (name : String) (arguments : List Expression)
    (distinct : Bool) : Except Refusal Cell :=
  match arguments with
  | [] => .error (.noArgument name)
  | argument :: _ =>
    if name = "COUNT" ∧ argument.same .wildcard = true then
      .ok (.int64 (Int64.ofNat group.rows.length))
    else do
      let values ← group.rows.mapM fun row => evaluator scope row argument
      let cells := values.filter fun cell => !cell.isNull
      summarise name (if distinct then Grouping.firsts Cell.groupKey cells else cells)

def onGroup (scope : Scope) (groupBy : List Expression) (group : Group) :
    Expression → Except Refusal Cell
  | .aggregate name arguments distinct =>
    group.keyOr groupBy (.aggregate name arguments distinct)
      (evaluator.aggregate scope group name arguments distinct)
  | .literal value => group.keyOr groupBy (.literal value) (.ok (cellOfLiteral value))
  | .nested inner =>
    group.keyOr groupBy (.nested inner) (onGroup scope groupBy group inner)
  | .cast operand type =>
    group.keyOr groupBy (.cast operand type) do
      convert (← onGroup scope groupBy group operand) type
  | .binary operator left right =>
    group.keyOr groupBy (.binary operator left right) do
      let left ← onGroup scope groupBy group left
      let right ← onGroup scope groupBy group right
      return cellOfTruth (← operate operator left right)
  | .unary operator operand =>
    group.keyOr groupBy (.unary operator operand) do
      operateUnary operator (← onGroup scope groupBy group operand)
  | .column table name => group.keyOr groupBy (.column table name) (.error (.notGrouped name))
  | expression => group.keyOr groupBy expression (.error .notForGroups)

def answerRows (joined : Joined) (statement : Statement) (rows : List (List Cell)) :
    Except Refusal (List OrderedRow) :=
  if statement.isAggregate then do
    let groups ← evaluator.group joined.scope statement.groupBy rows
    groups.mapM fun group =>
      orderedRow statement (evaluator.onGroup joined.scope statement.groupBy group)
  else
    rows.mapM fun row => orderedRow statement (evaluator joined.scope row)

def answer (database : Database) (statement : Statement) : Except Refusal Rowset := do
  let joined ← evaluator.source database statement
  let rows ← evaluator.filter joined.scope statement.filter joined.rows
  let columns ← statement.projections.mapM joined.scope.columnOf
  let answer ← evaluator.answerRows joined statement rows
  let sorted := sortRows statement.orderBy answer
  return ⟨columns, (window statement.offset statement.limit sorted).map OrderedRow.values⟩

end Evaluator

/-!
## An evaluator that checks what it reads
-/

namespace Scope

mutual

/-- The value of an expression on a row, which fails where a column is read and the row has no cell
at its place. -/
def evaluateStored (lapse : Refusal) (scope : Scope) (row : List Cell) :
    Expression → Except Refusal Cell
  | .column table name => do
    let (_, place) ← scope.resolve table name
    match row[place]? with
    | some cell => return cell
    | none => throw lapse
  | .literal value => .ok (cellOfLiteral value)
  | .binary operator left right => do
    let left ← evaluateStored lapse scope row left
    let right ← evaluateStored lapse scope row right
    return cellOfTruth (← operate operator left right)
  | .unary operator operand => do
    operateUnary operator (← evaluateStored lapse scope row operand)
  | .inList operand items negated => do
    let operand ← evaluateStored lapse scope row operand
    let items ← evaluateAllStored lapse scope row items
    let truth := memberTruth operand items
    return cellOfTruth (if negated then truth.not else truth)
  | .between operand least greatest negated => do
    let operand ← evaluateStored lapse scope row operand
    let least ← evaluateStored lapse scope row least
    let greatest ← evaluateStored lapse scope row greatest
    return cellOfTruth (← betweenTruth operand least greatest negated)
  | .isNull operand negated => do
    let operand ← evaluateStored lapse scope row operand
    return .bool (operand.isNull != negated)
  | .cast operand type => do
    convert (← evaluateStored lapse scope row operand) type
  | .nested inner => evaluateStored lapse scope row inner
  | .aggregate name _ _ => .error (.aggregateMisplaced name)
  | .wildcard => .error .wildcardMisplaced

def evaluateAllStored (lapse : Refusal) (scope : Scope) (row : List Cell) :
    List Expression → Except Refusal (List Cell)
  | [] => .ok []
  | first :: rest => do
    let value ← evaluateStored lapse scope row first
    let values ← evaluateAllStored lapse scope row rest
    return value :: values

end

end Scope

/-- An evaluator that fails on a row of another width than the scope, and where it reads a column
at a place that the row does not have. -/
def Evaluator.checked (lapse : Refusal) : Evaluator := fun scope row expression =>
  if row.length = scope.width then scope.evaluateStored lapse row expression else .error lapse

/-!
## Rows as wide as their scope
-/

/-- Rows that have one cell for each column of a scope. -/
def Scope.Fits (scope : Scope) (rows : List (List Cell)) : Prop :=
  ∀ row ∈ rows, row.length = scope.width

section Widths

variable {scope : Scope} {rows kept : List (List Cell)}

theorem Scope.Fits.of_sublist (fits : scope.Fits rows) (sublist : List.Sublist kept rows) :
    scope.Fits kept :=
  fun row member => fits row (sublist.subset member)

theorem Scope.Fits.filter (fits : scope.Fits rows) {condition : Option Expression}
    (filtered : scope.filter condition rows = .ok kept) : scope.Fits kept :=
  fits.of_sublist (Scope.sublist_of_filter filtered)

/-- A row with a row of a table behind it is as wide as the scope with that table. -/
theorem Scope.fits_append {row : List Cell} (asWide : row.length = scope.width) {binding : Binding}
    {others : List (List Cell)}
    (othersWide : ∀ other ∈ others, other.length = binding.columns.length) :
    Scope.Fits (scope ++ [binding]) (others.map fun other => row ++ other) := by
  intro wide member
  obtain ⟨other, isOther, rfl⟩ := List.mem_map.mp member
  rw [List.length_append, Scope.width_append, asWide, othersWide other isOther]

theorem length_padded {width : Nat} {row : List Cell} (narrow : row.length ≤ width) :
    (padded width row).length = width := by
  rw [padded, List.length_append, List.length_replicate, Nat.add_sub_cancel' narrow]

/-- A join keeps candidates, or fills the row up to the width of the scope. That the row is not wider
matters, as filling up does not cut it. -/
theorem Scope.Fits.joinRow {join : Join} {others made : List (List Cell)} {row : List Cell}
    (fits : scope.Fits (others.map fun other => row ++ other))
    (narrow : row.length ≤ scope.width)
    (joined : scope.joinRow join others row = .ok made) : scope.Fits made := by
  obtain ⟨held, isHeld, same⟩ := Outcome.bind_eq_ok.mp joined
  obtain rfl := Except.ok.inj same
  split
  · intro wide member
    obtain rfl := List.mem_singleton.mp member
    exact length_padded narrow
  · have filtered : scope.filter (some join.condition) _ = .ok held := isHeld
    exact fits.filter filtered

variable {database : Database} {joined next : Joined}

/-- A join widens the rows as it widens their scope. -/
theorem Database.Rectangular.fits_join (rectangular : database.Rectangular) {join : Join}
    (fits : joined.scope.Fits joined.rows) (run : database.join joined join = .ok next) :
    next.scope.Fits next.rows := by
  obtain ⟨table, found, run⟩ := Outcome.bind_eq_ok.mp run
  obtain ⟨parts, areParts, same⟩ := Outcome.bind_eq_ok.mp run
  obtain rfl := Except.ok.inj same
  intro wide member
  obtain ⟨part, isPart, inPart⟩ := List.mem_flatten.mp member
  obtain ⟨row, isRow, isJoined⟩ := Outcome.exists_of_mem_mapM areParts isPart
  have candidates : Scope.Fits (joined.scope ++ [⟨join.table.binding, table.columns⟩]) _ :=
    Scope.fits_append (fits row isRow) (rectangular join.table.name table found)
  refine candidates.joinRow ?_ isJoined wide inPart
  rw [Scope.width_append, fits row isRow]
  exact Nat.le_add_right _ _

end Widths

/-!
## Evaluators that agree on rows as wide as their scope
-/

/-- An evaluator has the values of the database on rows that are as wide as their scope. -/
def Evaluator.Agrees (evaluator : Evaluator) : Prop :=
  ∀ scope row expression, row.length = Scope.width scope →
    evaluator scope row expression = scope.evaluate row expression

namespace Evaluator.Agrees

variable {evaluator : Evaluator} (agrees : evaluator.Agrees) {scope : Scope}
  {rows : List (List Cell)}

include agrees

theorem evaluate_eq {row : List Cell} (asWide : row.length = scope.width) :
    evaluator scope row = scope.evaluate row :=
  funext fun expression => agrees scope row expression asWide

theorem holding_eq (fits : scope.Fits rows) (condition : Expression) :
    evaluator.holding scope condition rows = scope.holding condition rows := by
  induction rows with
  | nil => rfl
  | cons row rest ih =>
      obtain ⟨asWide, restFits⟩ := List.forall_mem_cons.mp fits
      rw [Evaluator.holding, Scope.holding, Evaluator.truth, Scope.truth,
        agrees.evaluate_eq asWide, ih restFits]

theorem filter_eq (fits : scope.Fits rows) (condition : Option Expression) :
    evaluator.filter scope condition rows = scope.filter condition rows := by
  cases condition with
  | none => rfl
  | some condition => exact agrees.holding_eq fits condition

theorem joinRow_eq {join : Join} {others : List (List Cell)} {row : List Cell}
    (fits : scope.Fits (others.map fun other => row ++ other)) :
    evaluator.joinRow scope join others row = scope.joinRow join others row := by
  rw [Evaluator.joinRow, Scope.joinRow, agrees.holding_eq fits]

theorem join_eq {database : Database} (rectangular : database.Rectangular) {joined : Joined}
    (fits : joined.scope.Fits joined.rows) (join : Join) :
    evaluator.join database joined join = database.join joined join := by
  rw [Evaluator.join, Database.join]
  cases found : database.table join.table.name with
  | error refusal => rfl
  | ok table =>
      have sameRows : joined.rows.mapM (evaluator.joinRow
            (joined.scope ++ [⟨join.table.binding, table.columns⟩]) join table.rows) =
          joined.rows.mapM (Scope.joinRow
            (joined.scope ++ [⟨join.table.binding, table.columns⟩]) join table.rows) :=
        Outcome.mapM_congr fun row isRow =>
          agrees.joinRow_eq (Scope.fits_append (fits row isRow)
            (rectangular join.table.name table found))
      rw [Outcome.ok_bind, Outcome.ok_bind]
      simp only [sameRows]

/-- Joins are the same one after another, as each leaves rows that are as wide as their scope. -/
theorem foldlM_join_eq {database : Database} (rectangular : database.Rectangular) {joined : Joined}
    (fits : joined.scope.Fits joined.rows) (joins : List Join) :
    joins.foldlM (evaluator.join database) joined = joins.foldlM database.join joined ∧
      ∀ next, joins.foldlM database.join joined = .ok next → next.scope.Fits next.rows := by
  induction joins generalizing joined with
  | nil =>
      refine ⟨rfl, fun next same => ?_⟩
      obtain rfl := Except.ok.inj same
      exact fits
  | cons join rest ih =>
      rw [List.foldlM_cons, List.foldlM_cons, agrees.join_eq rectangular fits]
      cases run : database.join joined join with
      | error refusal =>
          refine ⟨rfl, fun next failed => ?_⟩
          cases failed
      | ok wider => exact ih (rectangular.fits_join fits run)

theorem source_eq {database : Database} (rectangular : database.Rectangular)
    (statement : Statement) :
    evaluator.source database statement = database.source statement ∧
      ∀ joined, database.source statement = .ok joined → joined.scope.Fits joined.rows := by
  rw [Evaluator.source, Database.source]
  cases found : database.table statement.source.name with
  | error refusal =>
      refine ⟨rfl, fun joined failed => ?_⟩
      cases failed
  | ok table =>
      refine agrees.foldlM_join_eq rectangular (fun row isRow => ?_) statement.joins
      rw [rectangular statement.source.name table found row isRow]
      exact (Nat.zero_add _).symm

theorem keys_eq {row : List Cell} (asWide : row.length = scope.width)
    (groupBy : List Expression) :
    groupBy.mapM (evaluator scope row) = scope.evaluateAll row groupBy := by
  rw [agrees.evaluate_eq asWide, Scope.evaluateAll_eq_mapM]

theorem group_eq (fits : scope.Fits rows) (groupBy : List Expression) :
    evaluator.group scope groupBy rows = scope.group groupBy rows := by
  have sameKeys : (rows.mapM fun row => do
        return (← groupBy.mapM (evaluator scope row), row)) = scope.keyed groupBy rows :=
    Outcome.mapM_congr fun row isRow => by rw [agrees.keys_eq (fits row isRow)]
  rw [Evaluator.group, Scope.group, sameKeys]

theorem aggregate_eq {group : Group} (fits : scope.Fits group.rows) (name : String)
    (arguments : List Expression) (distinct : Bool) :
    evaluator.aggregate scope group name arguments distinct =
      group.aggregate scope name arguments distinct := by
  cases arguments with
  | nil => rfl
  | cons argument others =>
      have sameValues : (group.rows.mapM fun row => evaluator scope row argument) =
          group.rows.mapM fun row => scope.evaluate row argument :=
        Outcome.mapM_congr fun row isRow => agrees scope row argument (fits row isRow)
      rw [Evaluator.aggregate, Group.aggregate, sameValues]

/-- The value on a group reads rows in aggregates only. -/
theorem onGroup_eq {group : Group} (fits : scope.Fits group.rows) (groupBy : List Expression) :
    (expression : Expression) →
    evaluator.onGroup scope groupBy group expression = group.evaluate scope groupBy expression
  | .aggregate name arguments distinct => by
      rw [Evaluator.onGroup, Group.evaluate, agrees.aggregate_eq fits]
  | .nested inner => by
      rw [Evaluator.onGroup, Group.evaluate, onGroup_eq fits groupBy inner]
  | .cast operand type => by
      rw [Evaluator.onGroup, Group.evaluate, onGroup_eq fits groupBy operand]
  | .binary operator left right => by
      rw [Evaluator.onGroup, Group.evaluate, onGroup_eq fits groupBy left,
        onGroup_eq fits groupBy right]
  | .unary operator operand => by
      rw [Evaluator.onGroup, Group.evaluate, onGroup_eq fits groupBy operand]
  | .literal _ | .column _ _ | .wildcard | .inList _ _ _ | .between _ _ _ _ | .isNull _ _ => rfl

end Evaluator.Agrees

theorem Scope.map_snd_keyed {scope : Scope} {rows : List (List Cell)} {groupBy : List Expression}
    {keyed : List (List Cell × List Cell)} (areKeyed : scope.keyed groupBy rows = .ok keyed) :
    keyed.map Prod.snd = rows := by
  have eachRow : keyed.map Prod.snd = rows.map id :=
    Outcome.map_eq_map_of_mapM areKeyed fun row _ entry made => by
      obtain ⟨keys, _, same⟩ := Outcome.bind_eq_ok.mp made
      obtain rfl := Except.ok.inj same
      rfl
  rwa [List.map_id] at eachRow

/-- The rows of a group are among those that are grouped. -/
theorem Scope.Fits.group {scope : Scope} {rows : List (List Cell)} (fits : scope.Fits rows)
    {groupBy : List Expression} {groups : List Group}
    (grouped : scope.group groupBy rows = .ok groups) :
    ∀ group ∈ groups, scope.Fits group.rows := by
  rw [Scope.group] at grouped
  split at grouped
  · obtain rfl := Except.ok.inj grouped
    exact fun group member => List.mem_singleton.mp member ▸ fits
  · obtain ⟨keyed, areKeyed, same⟩ := Outcome.bind_eq_ok.mp grouped
    obtain rfl := Except.ok.inj same
    have sameRows := Scope.map_snd_keyed areKeyed
    intro group member
    obtain ⟨members, isGroup, rfl⟩ := List.mem_map.mp member
    have part := (Grouping.members_of_mem_groups isGroup).2.map Prod.snd
    exact fits.of_sublist (sameRows ▸ part)

namespace Evaluator.Agrees

variable {evaluator : Evaluator} (agrees : evaluator.Agrees)

include agrees

theorem answerRows_eq {joined : Joined} {rows : List (List Cell)} (fits : joined.scope.Fits rows)
    (statement : Statement) :
    evaluator.answerRows joined statement rows = joined.answerRows statement rows := by
  rw [Evaluator.answerRows, Joined.answerRows, agrees.group_eq fits]
  split
  · cases grouped : joined.scope.group statement.groupBy rows with
    | error refusal => rfl
    | ok groups =>
        refine Outcome.mapM_congr fun group member => ?_
        have same := funext (agrees.onGroup_eq (fits.group grouped group member) statement.groupBy)
        rw [same]
  · exact Outcome.mapM_congr fun row isRow => by rw [agrees.evaluate_eq (fits row isRow)]

theorem answer_eq {database : Database} (rectangular : database.Rectangular)
    (statement : Statement) :
    evaluator.answer database statement = database.answer statement := by
  obtain ⟨sameSource, sourceFits⟩ := agrees.source_eq rectangular statement
  rw [Evaluator.answer, Database.answer, sameSource]
  cases isSource : database.source statement with
  | error refusal => rfl
  | ok joined =>
      have fits := sourceFits joined isSource
      rw [Outcome.ok_bind, Outcome.ok_bind, agrees.filter_eq fits]
      cases filtered : joined.scope.filter statement.filter joined.rows with
      | error refusal => rfl
      | ok kept =>
          simp only [Outcome.ok_bind, agrees.answerRows_eq (fits.filter filtered)]

end Evaluator.Agrees

/-!
## The places of columns
-/

namespace Scope

variable {scope : Scope} {qualifier : Option String} {name : String} {found : Column × Nat}

theorem width_cons (binding : Binding) (rest : Scope) :
    width (binding :: rest) = binding.columns.length + width rest := by
  have asSum : ∀ scope : Scope,
      width scope = (scope.map fun binding => binding.columns.length).sum := fun scope => by
    rw [List.sum_eq_foldl, List.foldl_map]
    rfl
  rw [asSum, asSum, List.map_cons, List.sum_cons]

theorem lt_length_of_position? {columns : List Column}
    (isFound : position? name columns = some found) : found.2 < columns.length := by
  have member := List.mk_mem_zipIdx_iff_getElem?.mp (List.mem_of_find?_eq_some isFound)
  exact (List.getElem?_eq_some_iff.mp member).1

/-- The places of columns are in the part of the row that their tables take. -/
theorem lt_of_mem_candidates {offset : Nat}
    (member : found ∈ candidates qualifier name offset scope) :
    found.2 < offset + scope.width := by
  induction scope generalizing offset with
  | nil => cases member
  | cons binding rest ih =>
      rw [width_cons]
      have later : found ∈ candidates qualifier name (offset + binding.columns.length) rest →
          found.2 < offset + (binding.columns.length + width rest) :=
        fun member => Nat.add_assoc _ _ _ ▸ ih member
      rw [candidates] at member
      split at member
      · split at member
        next column place isFound =>
          rcases List.mem_cons.mp member with rfl | member
          · have inTable := lt_length_of_position? isFound
            simp only at inTable ⊢
            omega
          · exact later member
        next => exact later member
      · exact later member

/-- The place of a column is in every row that is as wide as the scope. -/
theorem lt_width_of_resolve (resolved : scope.resolve qualifier name = .ok found) :
    found.2 < scope.width := by
  have member : found ∈ candidates qualifier name 0 scope := by
    unfold resolve at resolved
    split at resolved
    · cases resolved
    next only same =>
      obtain rfl := Except.ok.inj resolved
      rw [same]
      exact List.mem_singleton_self _
    · cases resolved
  have inRow := lt_of_mem_candidates member
  rwa [Nat.zero_add] at inRow

mutual

theorem evaluateStored_eq (lapse : Refusal) {scope : Scope} {row : List Cell}
    (asWide : row.length = scope.width) : (expression : Expression) →
    scope.evaluateStored lapse row expression = scope.evaluate row expression
  | .column table name => by
      rw [evaluateStored, evaluate]
      cases resolved : scope.resolve table name with
      | error refusal => rfl
      | ok found =>
          have isCell := List.getElem?_eq_getElem (asWide ▸ lt_width_of_resolve resolved)
          simp only [Outcome.ok_bind, isCell, List.getD_eq_getElem?_getD, Option.getD_some]
  | .literal value => rfl
  | .binary operator left right => by
      rw [evaluateStored, evaluate, evaluateStored_eq lapse asWide left,
        evaluateStored_eq lapse asWide right]
  | .unary operator operand => by
      rw [evaluateStored, evaluate, evaluateStored_eq lapse asWide operand]
  | .inList operand items negated => by
      rw [evaluateStored, evaluate, evaluateStored_eq lapse asWide operand,
        evaluateAllStored_eq lapse asWide items]
  | .between operand least greatest negated => by
      rw [evaluateStored, evaluate, evaluateStored_eq lapse asWide operand,
        evaluateStored_eq lapse asWide least, evaluateStored_eq lapse asWide greatest]
  | .isNull operand negated => by
      rw [evaluateStored, evaluate, evaluateStored_eq lapse asWide operand]
  | .cast operand type => by
      rw [evaluateStored, evaluate, evaluateStored_eq lapse asWide operand]
  | .nested inner => by
      rw [evaluateStored, evaluate, evaluateStored_eq lapse asWide inner]
  | .aggregate name arguments distinct => rfl
  | .wildcard => rfl

theorem evaluateAllStored_eq (lapse : Refusal) {scope : Scope} {row : List Cell}
    (asWide : row.length = scope.width) : (expressions : List Expression) →
    scope.evaluateAllStored lapse row expressions = scope.evaluateAll row expressions
  | [] => rfl
  | first :: rest => by
      rw [evaluateAllStored, evaluateAll, evaluateStored_eq lapse asWide first,
        evaluateAllStored_eq lapse asWide rest]

end

end Scope

theorem Evaluator.agrees_checked (lapse : Refusal) : (Evaluator.checked lapse).Agrees := by
  intro scope row expression asWide
  rw [Evaluator.checked, if_pos asWide, Scope.evaluateStored_eq lapse asWide]

/-!
## Databases that are built
-/

namespace Database

inductive Call where
  | createTable (name : String) (columns : List Column)
  | insert (name : String) (row : List Cell)

/-- The database after a call. A row that is refused changes nothing. -/
def call (database : Database) : Call → Database
  | .createTable name columns => database.createTable name columns
  | .insert name row =>
    match database.insert name row with
    | .ok after => after
    | .error _ => database

/-- The database after several calls, from the one without tables. -/
def ofCalls (calls : List Call) : Database :=
  calls.foldl call empty

theorem Built.call {database : Database} (built : database.Built) (call : Call) :
    (database.call call).Built := by
  cases call with
  | createTable name columns => exact built.createTable name columns
  | insert name row =>
      rw [Database.call]
      split
      next after inserted => exact built.insert inserted
      next => exact built

theorem built_ofCalls (calls : List Call) : (ofCalls calls).Built :=
  List.foldlRecOn calls call .empty fun _ built call _ => built.call call

/-- Answers by the evaluation of the database are its answers. -/
theorem answer_evaluate (calls : List Call) (statement : Statement) :
    Evaluator.answer (fun scope row expression => scope.evaluate row expression) (ofCalls calls)
        statement =
      (ofCalls calls).answer statement :=
  Evaluator.Agrees.answer_eq (fun _ _ _ _ => rfl) (built_ofCalls calls).rectangular statement

/-- Every row on which an expression is evaluated is as wide as the scope, and every column that is
read is at a place that the row has: whatever the failure that stands for a lapse, an evaluator that
checks both gives the same answer. -/
theorem answer_checked (calls : List Call) (statement : Statement) (lapse : Refusal) :
    (Evaluator.checked lapse).answer (ofCalls calls) statement =
        (ofCalls calls).answer statement ∧
      ∀ (scope : Scope) (qualifier : Option String) (name : String) (found : Column × Nat),
        scope.resolve qualifier name = .ok found → found.2 < scope.width :=
  ⟨(Evaluator.agrees_checked lapse).answer_eq (built_ofCalls calls).rectangular statement,
    fun _ _ _ _ => Scope.lt_width_of_resolve⟩

end Database

/-- Two places and two visits, of which one has no place. The last place is refused. -/
def visitCalls : List Database.Call :=
  [.createTable "PLACES" [⟨"ID", "BIGINT"⟩, ⟨"NAME", "VARCHAR"⟩],
    .createTable "VISITS" [⟨"ID", "BIGINT"⟩, ⟨"PLACE_ID", "BIGINT"⟩],
    .insert "VISITS" [.int64 1, .int64 7], .insert "VISITS" [.int64 2, .null],
    .insert "PLACES" [.int64 7, .text "Mill"], .insert "PLACES" [.int64 8]]

/-- The visits with the names of their places. -/
def visitedPlaces : Statement where
  projections := [⟨.column (some "VISITS") "ID", none⟩, ⟨.column none "NAME", none⟩]
  source := ⟨"VISITS", none⟩
  joins :=
    [⟨.left, ⟨"PLACES", none⟩,
      .binary (.compare .equal) (.column none "PLACE_ID") (.column (some "PLACES") "ID")⟩]
  filter := none
  groupBy := []
  orderBy := []
  limit := none
  offset := none

theorem visitedPlaces_answer_checked :
    (Evaluator.checked .outOfRange).answer (Database.ofCalls visitCalls) visitedPlaces =
        .ok ⟨[⟨"ID", "BIGINT"⟩, ⟨"NAME", "VARCHAR"⟩],
          [[.int64 1, .text "Mill"], [.int64 2, .null]]⟩ ∧
      3 < Scope.width [⟨"VISITS", [⟨"ID", "BIGINT"⟩, ⟨"PLACE_ID", "BIGINT"⟩]⟩,
        ⟨"PLACES", [⟨"ID", "BIGINT"⟩, ⟨"NAME", "VARCHAR"⟩]⟩] := by
  obtain ⟨checked, places⟩ := Database.answer_checked visitCalls visitedPlaces .outOfRange
  refine ⟨checked.trans ?_, places _ none "NAME" (⟨"NAME", "VARCHAR"⟩, 3) rfl⟩
  cbv

/-- A row without the cell of its column, which no call makes, is a lapse. -/
example (lapse : Refusal) :
    (Evaluator.checked lapse).answer ⟨[("VISITS", ⟨[⟨"ID", "BIGINT"⟩], [[]]⟩)]⟩
        { visitedPlaces with joins := [], projections := [⟨.column none "ID", none⟩] } =
      .error lapse :=
  rfl

end CrossQuery.Relational
