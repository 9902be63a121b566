import CrossQuery.Capability
import CrossQuery.Collection.Stage
import CrossQuery.Relational.Selection
import CrossQuery.Rowset

/-!
# Plans as pipelines

The pipeline of a plan over one collection, and the rows that its documents stand for. There are
no joins, and the primary key of a document is its identifier.
-/

set_option autoImplicit false

namespace CrossQuery

def Capabilities.document : Capabilities :=
  { supportsForeignKeys := false
    identifierWidth := .narrow
    naming := .documentKeys }

namespace Collection

/-- A pipeline over a collection. -/
structure Pipeline where
  collection : String
  stages : List Json

/-- The field of a grouped document that holds the aggregate, apart from the names of columns. -/
def aggregateField : String := "__agg"

/-- The failure of a plan that reaches another table. -/
def joinFailure : Failure :=
  .unsupported "fields" "foreign key references are not supported by this backend"

/-- The name of a field in documents. -/
def keyOfField (field : PlanField) : Except Failure String :=
  if field.isJoined then .error joinFailure
  else .ok (Naming.documentKeys.spellField field.field)

/-- The name of a field of documents as a path. -/
def pathText (name : String) : String :=
  "$" ++ name

def single (name : String) (value : Json) : Json :=
  .object [(name, value)]

/-- The condition of a comparison. What is missing never differs from a value. -/
def compareCondition (comparison : Comparison) (value : Json) : Json :=
  match comparison with
  | .equal => single "$eq" value
  | .notEqual => single "$nin" (.array [value, .null])
  | .less => single "$lt" value
  | .lessOrEqual => single "$lte" value
  | .greater => single "$gt" value
  | .greaterOrEqual => single "$gte" value

/-- A text that a regular expression takes literally. -/
def escapedText (text : String) : String :=
  String.ofList (Pattern.escape text.toList)

mutual

def filterOf : Predicate → Except Failure Json
  | .and clauses => do return single "$and" (.array (← filtersOf clauses))
  | .or clauses => do return single "$or" (.array (← filtersOf clauses))
  | .not clause => do return single "$nor" (.array [← filterOf clause])
  | .compare field comparison value => do
    return single (← keyOfField field) (compareCondition comparison value.toJson)
  | .between field least greatest => do
    return single (← keyOfField field)
      (.object [("$gte", least.toJson), ("$lte", greatest.toJson)])
  | .isNull field negated => do
    return single (← keyOfField field) (single (if negated then "$ne" else "$eq") .null)
  | .startsWith field value => do
    return single (← keyOfField field) (single "$regex" (.string ("^" ++ escapedText value)))
  | .contains field value => do
    return single (← keyOfField field) (single "$regex" (.string (escapedText value)))

def filtersOf : List Predicate → Except Failure (List Json)
  | [] => .ok []
  | clause :: rest => do
    let first ← filterOf clause
    let others ← filtersOf rest
    return first :: others

end

/-- The entries of an object, where a name that occurs again overwrites the value before. -/
def collect (entries : List (String × Json)) : List (String × Json) :=
  entries.foldl (fun collected entry => Json.assign entry.1 entry.2 collected) []

/-- The stage that keeps the documents that satisfy a filter, if there is one. -/
def matchStages (filter : Option Predicate) : Except Failure (List Json) :=
  match filter with
  | none => .ok []
  | some predicate => do return [single "$match" (← filterOf predicate)]

def sortEntry (order : PlanOrder) : Except Failure (String × Json) := do
  return (← keyOfField order.field,
    .whole (if order.direction == .ascending then 1 else -1))

/-- The stage that orders documents, if an order is asked for. -/
def sortStages (entries : List (String × Json)) : List Json :=
  if entries.isEmpty then [] else [single "$sort" (.object (collect entries))]

/-- The stages that cut the documents to the window. -/
def windowStages (offset limit : Option Nat) : List Json :=
  (offset.map fun count => single "$skip" (Json.ofNat count)).toList ++
    (limit.map fun count => single "$limit" (Json.ofNat count)).toList

/-- The name under which a group stage keeps a breakout field. -/
def breakoutName (place : Nat) : String :=
  "f" ++ String.ofList (Text.writeNat place)

/-- The identifier of the groups of breakout fields. -/
def groupIdentifier (keys : List String) : Json :=
  if keys.isEmpty then .null
  else .object (keys.zipIdx.map fun (key, place) =>
    (breakoutName place, .string (pathText key)))

def accumulatorOf (kind : AggregateKind) (source : Option String) : Except Failure Json :=
  match kind, source with
  | .count, _ => .ok (single "$sum" (.whole 1))
  | .sum, some key => .ok (single "$sum" (.string (pathText key)))
  | .average, some key => .ok (single "$avg" (.string (pathText key)))
  | .distinct, some key => .ok (single "$addToSet" (.string (pathText key)))
  | kind, none => .error kind.requiresField

/-- The name of the field of a pipeline's documents that a column is read from. -/
def outputKey : PlanColumn → Except Failure String
  | .field field => keyOfField field
  | .aggregate _ _ => .ok aggregateField

/-- The projection of a column of grouped documents. -/
def groupedEntry (breakout : List PlanField) (column : PlanColumn) :
    Except Failure (String × Json) := do
  let key ← outputKey column
  match column with
  | .field field =>
    match breakout.findIdx? fun other => other.sameAs field with
    | some place => return (key, .string (pathText ("_id." ++ breakoutName place)))
    | none => throw (.invalidQuery ("column " ++ key ++ " is not a breakout field"))
  | .aggregate .distinct _ => return (key, single "$size" (.string (pathText aggregateField)))
  | .aggregate _ _ => return (key, .string (pathText aggregateField))

/-- The stages that group documents and flatten the groups. -/
def groupStages (plan : Plan) (kind : AggregateKind) (source : Option PlanField) :
    Except Failure (List Json) := do
  let keys ← plan.breakout.mapM keyOfField
  let sourceKey ← source.mapM keyOfField
  let accumulator ← accumulatorOf kind sourceKey
  let entries ← plan.columns.mapM (groupedEntry plan.breakout)
  return [
    single "$group"
      (.object [("_id", groupIdentifier keys), (aggregateField, accumulator)]),
    single "$project" (.object (collect entries))]

/-- The projection of a column of plain documents. Aggregates have none. -/
def plainEntry (column : PlanColumn) : Except Failure (Option (String × Json)) :=
  match column with
  | .field field => do
    let key ← keyOfField field
    return some (key, .string (pathText key))
  | .aggregate _ _ => .ok none

def pipelineOfPlan (plan : Plan) : Except Failure Pipeline := do
  if !plan.joins.isEmpty then throw joinFailure
  let filter ← matchStages plan.filter
  let sort ← plan.orderBy.mapM sortEntry
  let window := windowStages plan.offset plan.limit
  match plan.aggregate? with
  | some (kind, source) =>
    let group ← groupStages plan kind source
    return ⟨plan.source.name, filter ++ group ++ sortStages sort ++ window⟩
  | none =>
    let entries ← plan.columns.mapM plainEntry
    let project := single "$project" (.object (collect (entries.filterMap id)))
    return ⟨plan.source.name, filter ++ sortStages sort ++ window ++ [project]⟩

mutual

/-- The cell of a value in a document. Whole numbers are held in 32 bits where they fit. -/
def cellOfValue : Json → Cell
  | .null => .null
  | .bool value => .bool value
  | .whole value =>
    if Cell.fitsInt32 value then .int32 (Int32.ofInt value)
    else if Cell.fitsInt64 value then .int64 (Int64.ofInt value)
    else .float64 (Float.ofInt value)
  | .real value => .float64 value
  | .string text => .text text
  | .array items => .array (cellsOfValues items)
  | .object entries => .json (.object entries)

def cellsOfValues : List Json → List Cell
  | [] => []
  | value :: rest => cellOfValue value :: cellsOfValues rest

end

/-- The name of the type of a cell that is not null. -/
def typeName : Cell → String
  | .int32 _ => "int"
  | .int64 _ => "long"
  | .float64 _ => "double"
  | .bool _ => "bool"
  | .text _ => "string"
  | .array _ => "array"
  | _ => "object"

/-- The name of the type of a column: that of its first cell that is not null. -/
def columnType (cells : List Cell) : String :=
  match cells.find? fun cell => !cell.isNull with
  | some cell => typeName cell
  | none => "null"

def rowOfDocument (keys : List String) (document : Document) : List Cell :=
  keys.map fun key => ((Json.lookup? key document).map cellOfValue).getD .null

/-- The value of an aggregate over no documents. -/
def emptyAggregate : AggregateKind → Cell
  | .count | .distinct => .int32 0
  | .sum | .average => .null

/-- The rows of documents. An aggregate over no documents has a row as well, unless groups are
asked for. -/
def rowsOfDocuments (plan : Plan) (keys : List String) (documents : List Document) :
    List (List Cell) :=
  match documents, plan.breakout, plan.aggregate? with
  | [], [], some (kind, _) => [[emptyAggregate kind]]
  | documents, _, _ => documents.map (rowOfDocument keys)

def rowsetOfDocuments (plan : Plan) (keys names : List String) (documents : List Document) :
    Rowset :=
  let rows := rowsOfDocuments plan keys documents
  let columns := names.zipIdx.map fun (name, place) =>
    ⟨name, columnType (rows.filterMap fun row => row[place]?)⟩
  ⟨columns, rows⟩

end Collection

end CrossQuery
