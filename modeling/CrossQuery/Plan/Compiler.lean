import CrossQuery.Capability

/-!
# Compiling queries

From a query to a plan. Every reference is looked up in the catalog, in the order filter, columns,
order; a reference through a foreign key adds its table to the joins at first use.
-/

set_option autoImplicit false

namespace CrossQuery

/-- What a query is compiled against. -/
structure CompileContext where
  catalog : Catalog
  capabilities : Capabilities
  source : Table

/-- The joins collected so far, or a failure. -/
abbrev CompileM (α : Type) := StateT (List PlanJoin) (Except Failure) α

namespace CompileContext

/-- The result of a look-up in the catalog. -/
def look {α : Type} (found : Except NotFound α) : CompileM α :=
  match found with
  | .ok value => pure value
  | .error missing => throw missing.failure

/-- Fail because a field is not where the query refers to it. -/
def unknownField {α : Type} (id : Int) : CompileM α :=
  throw (.unknownReference .field (Catalog.idText id))

/-- Add a join unless its key is joined already. The target must have a primary key. -/
def addJoin (context : CompileContext) (key : Field) (target : Table) : CompileM Unit := do
  let joins ← get
  if joins.any fun join => join.key.id == key.id then
    pure ()
  else
    match ← look (context.catalog.primaryKey target.id) with
    | some targetKey => set (joins ++ [⟨key, target, targetKey⟩])
    | none => throw (.invalidQuery ("table " ++ target.name ++ " has no primary key"))

/-- Look up a reference that occurs in the named clause. -/
def resolve (context : CompileContext) (clause : String) : FieldRef → CompileM PlanField
  | .direct id => do
    let field ← look (context.catalog.field id)
    if field.tableId = context.source.id then
      pure (.direct field context.source)
    else
      unknownField id
  | .through keyId destinationId => do
    if !context.capabilities.supportsForeignKeys then
      throw (.unsupported clause "foreign key references are not supported by this backend")
    let key ← look (context.catalog.field keyId)
    if key.tableId ≠ context.source.id then
      unknownField keyId
    match key.target with
    | none => throw (.invalidQuery ("field " ++ key.name ++ " is not a foreign key"))
    | some targetId => do
      let destination ← look (context.catalog.field destinationId)
      if destination.tableId ≠ targetId then
        unknownField destinationId
      let target ← look (context.catalog.table targetId)
      context.addJoin key target
      pure ⟨destination, target, some key⟩

/-- The cell of a value that must be a scalar. -/
def scalar (role : String) : Json → Except Failure Cell
  | .null => .error (.invalidQuery (role ++ " bounds cannot be null"))
  | .array items =>
    .error (.invalidQuery (role ++ " values must be scalars, got " ++ (Json.array items).compact))
  | .object entries =>
    .error
      (.invalidQuery (role ++ " values must be scalars, got " ++ (Json.object entries).compact))
  | value => .ok (.ofJson value)

/-- The cell of a value that is compared with a field: a text is read as a date or timestamp if
the field holds those. -/
def typedScalar (field : PlanField) (role : String) (value : Json) : Except Failure Cell := do
  let cell ← scalar role value
  let typed (kind : String) (read : Option Cell) : Except Failure Cell :=
    match read with
    | some cell => .ok cell
    | none =>
      .error
        (.invalidQuery
          (value.compact ++ " is not a valid " ++ kind ++ " for field " ++ field.field.name))
  match field.field.baseType, cell.text? with
  | .date, some text => typed "date" ((Calendar.readDate? text.toList).map .date)
  | .timestamp, some text =>
    typed "timestamp" ((Calendar.readTimestamp? text.toList).map .timestamp)
  | _, _ => .ok cell

/-- A comparison. Equality with null is a test for null, and there is no order against it. -/
def lowerCompare (context : CompileContext) (comparison : Comparison) (ref : FieldRef)
    (value : Json) : CompileM Predicate := do
  let field ← context.resolve "filter" ref
  if value.isNull then
    match comparison with
    | .equal => pure (.isNull field false)
    | .notEqual => pure (.isNull field true)
    | _ =>
      throw (.invalidQuery ("cannot order-compare " ++ field.field.name ++ " against null"))
  else
    let cell ← typedScalar field "comparison" value
    pure (.compare field comparison cell)

/-- The conjunction of clauses: nothing without any, and a single one by itself. -/
def conjunction : List Predicate → Option Predicate
  | [] => none
  | [clause] => some clause
  | clauses => some (.and clauses)

/-- The disjunction of clauses. One that matches every row, or the lack of any, matches all. -/
def disjunction (clauses : List (Option Predicate)) : Option Predicate :=
  if clauses.isEmpty || clauses.any Option.isNone then none
  else
    match clauses.filterMap id with
    | [clause] => some clause
    | clauses => some (.or clauses)

mutual

/-- The predicate of a filter; none matches every row. -/
def lowerFilter (context : CompileContext) : Filter → CompileM (Option Predicate)
  | .all => pure none
  | .and clauses => do
    let lowered ← lowerClauses context clauses
    pure (conjunction (lowered.filterMap id))
  | .or clauses => do
    let lowered ← lowerClauses context clauses
    pure (disjunction lowered)
  | .not clause => do
    match ← lowerFilter context clause with
    | some predicate => pure (some (.not predicate))
    | none => throw (.invalidQuery "`not` applied to a match-all filter")
  | .compare comparison ref value => do
    pure (some (← context.lowerCompare comparison ref value))
  | .between ref least greatest => do
    let field ← context.resolve "filter" ref
    let least ← typedScalar field "between" least
    let greatest ← typedScalar field "between" greatest
    pure (some (.between field least greatest))
  | .isNull ref => do
    pure (some (.isNull (← context.resolve "filter" ref) false))
  | .notNull ref => do
    pure (some (.isNull (← context.resolve "filter" ref) true))
  | .startsWith ref value => do
    pure (some (.startsWith (← context.resolve "filter" ref) value))
  | .contains ref value => do
    pure (some (.contains (← context.resolve "filter" ref) value))

def lowerClauses (context : CompileContext) : List Filter → CompileM (List (Option Predicate))
  | [] => pure []
  | clause :: rest => do
    let first ← lowerFilter context clause
    let others ← lowerClauses context rest
    pure (first :: others)

end

/-- The breakout fields, none of which may occur twice. -/
def lowerBreakout (context : CompileContext) :
    List PlanField → List FieldRef → CompileM (List PlanField)
  | breakout, [] => pure breakout
  | breakout, ref :: rest => do
    let field ← context.resolve "breakout" ref
    if breakout.any fun other => other.sameAs field then
      throw
        (.invalidQuery ("field " ++ field.field.name ++ " appears more than once in breakout"))
    lowerBreakout context (breakout ++ [field]) rest

/-- The field that is aggregated. Sums and averages need a numeric one. -/
def lowerSource (context : CompileContext) (kind : AggregateKind) :
    Option FieldRef → CompileM (Option PlanField)
  | none => pure none
  | some ref => do
    let field ← context.resolve "aggregation" ref
    if (kind = .sum ∨ kind = .average) ∧ field.field.baseType.isNumeric = false then
      throw
        (.invalidQuery
          ("cannot " ++ kind.columnName ++ " non-numeric field " ++ field.field.name))
    pure (some field)

/-- The columns of a request for rows: the fields asked for, or all of the source. -/
def lowerRows (context : CompileContext) (query : Query) : CompileM (List PlanColumn) := do
  if query.fields.isEmpty then
    let fields ← look (context.catalog.fields context.source.id)
    pure (fields.map fun field => .field (.direct field context.source))
  else
    query.fields.mapM fun ref => do
      pure (.field (← context.resolve "fields" ref))

/-- The aggregate that is asked for, with the field that it refers to. -/
def aggregateOf : Aggregation → Option (AggregateKind × Option FieldRef)
  | .rows => none
  | .count => some (.count, none)
  | .sum field => some (.sum, some field)
  | .distinct field => some (.distinct, some field)
  | .average field => some (.average, some field)

def lowerColumns (context : CompileContext) (query : Query) :
    CompileM (List PlanColumn × List PlanField) := do
  match aggregateOf query.aggregation with
  | none =>
    if !query.breakout.isEmpty then
      throw (.unsupported "breakout" "breakout requires an aggregation")
    pure (← context.lowerRows query, [])
  | some (kind, source) =>
    if !query.fields.isEmpty then
      throw
        (.unsupported "fields" "explicit fields cannot be combined with an aggregation")
    let breakout ← context.lowerBreakout [] query.breakout
    let source ← context.lowerSource kind source
    pure (breakout.map .field ++ [.aggregate kind source], breakout)

/-- Keys with one more, unless its field is among them. -/
def appendKey (keys : List PlanOrder) (key : PlanOrder) : List PlanOrder :=
  if keys.any fun other => other.field.sameAs key.field then keys else keys ++ [key]

/-- The order that is asked for. A field counts once, and of an aggregation only breakout fields
may be named. -/
def lowerOrder (context : CompileContext) (aggregated : Bool) (breakout : List PlanField) :
    List PlanOrder → List OrderKey → CompileM (List PlanOrder)
  | keys, [] => pure keys
  | keys, key :: rest => do
    let field ← context.resolve "order_by" key.field
    if aggregated && !(breakout.any fun other => other.sameAs field) then
      throw (.unsupported "order_by" (field.field.name ++ " is not a breakout field"))
    lowerOrder context aggregated breakout (appendKey keys ⟨field, key.direction⟩) rest

/-- An order that names the primary key of the source, so that no two rows tie. -/
def breakTies (context : CompileContext) (keys : List PlanOrder) : CompileM (List PlanOrder) := do
  match ← look (context.catalog.primaryKey context.source.id) with
  | some key => pure (appendKey keys ⟨.direct key context.source, .ascending⟩)
  | none => pure keys

end CompileContext

/-- The largest number of rows that can be skipped. -/
def offsetBound : Nat := 18446744073709551615

/-- The number of rows before a page. -/
def Page.skip (page : Page) : Except Failure Nat :=
  if page.items = 0 ∨ page.page = 0 then
    .error
      (.invalidQuery
        ("page numbers start at 1 and pages need at least one item (got items=" ++
          String.ofList (Text.writeNat page.items) ++ ", page=" ++
          String.ofList (Text.writeNat page.page) ++ ")"))
  else if (page.page - 1) * page.items > offsetBound then
    .error (.invalidQuery "page offset overflows")
  else
    .ok ((page.page - 1) * page.items)

/-- The part of a result that a plan returns. -/
structure Window where
  limit : Option Nat
  offset : Option Nat
  warnings : List PlanWarning

/-- The window of a query: its page, or else its limit. -/
def Query.window (query : Query) (ordered : Bool) : Except Failure Window :=
  match query.page with
  | none => .ok ⟨query.limit, none, []⟩
  | some page => do
    let skip ← page.skip
    .ok
      ⟨some page.items, if skip > 0 then some skip else none,
        if ordered then [] else [.unorderedPages]⟩

def CompileContext.compile (context : CompileContext) (databaseId : Int) (query : Query)
    (maxRows : Option Nat) : CompileM Plan := do
  let filter ←
    match query.filter with
    | some filter => context.lowerFilter filter
    | none => pure none
  let (columns, breakout) ← context.lowerColumns query
  let aggregated := columns.any PlanColumn.isAggregate
  let asked ← context.lowerOrder aggregated breakout [] query.orderBy
  let keys := breakout.foldl (fun keys field => appendKey keys ⟨field, .ascending⟩) asked
  let window ← query.window !keys.isEmpty
  let keys ← if !aggregated && !keys.isEmpty then context.breakTies keys else pure keys
  let limit :=
    match window.limit with
    | some limit => some limit
    | none => if aggregated then none else maxRows
  pure
    { databaseId := databaseId
      source := context.source
      joins := ← get
      columns := columns
      filter := filter
      breakout := breakout
      orderBy := keys
      limit := limit
      offset := window.offset
      warnings := window.warnings }

/-- The plan of a query of a database. A query for rows that sets no limit is cut at `maxRows`. -/
def Query.compile (query : Query) (catalog : Catalog) (capabilities : Capabilities)
    (databaseId : Int) (maxRows : Option Nat) : Except Failure Plan :=
  match catalog.table query.sourceTable with
  | .error missing => .error missing.failure
  | .ok source =>
    if source.databaseId ≠ databaseId then
      .error (.unknownReference .table (Catalog.idText query.sourceTable))
    else
      (CompileContext.mk catalog capabilities source |>.compile databaseId query maxRows).run' []

end CrossQuery
