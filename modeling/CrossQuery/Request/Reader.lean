import CrossQuery.Json.Reader
import CrossQuery.Json.Shape
import CrossQuery.Request

/-!
# Reading requests

Requests from JSON. Clauses that are left out have their plain meaning, and unknown entries are
ignored.
-/

set_option autoImplicit false

namespace CrossQuery

/-- A field reference: an identifier, or an object with a key and a destination. -/
def FieldRef.read? : Json → Option FieldRef
  | .object entries => do
    let record ← (Json.object entries).record? ["fk", "dest"]
    let key ← record.required "fk" Json.readInt64?
    let destination ← record.required "dest" Json.readInt64?
    some (.through key destination)
  | value => (Json.readInt64? value).map .direct

/-- The field beside the tag of an aggregation. -/
def Aggregation.readField? (content : Json) : Option FieldRef := do
  let record ← content.record? ["field"]
  record.required "field" FieldRef.read?

def Aggregation.read? (value : Json) : Option Aggregation := do
  let (tag, content) ← value.tagged? "kind"
  match ← Json.readText? tag with
  | "rows" => (content.record? []).map fun _ => .rows
  | "count" => (content.record? []).map fun _ => .count
  | "sum" => (readField? content).map .sum
  | "distinct" => (readField? content).map .distinct
  | "avg" => (readField? content).map .average
  | _ => none

def Direction.read? : Json → Option Direction :=
  Json.readChoice? [("ascending", .ascending), ("descending", .descending)]

/-- A key of an order. It ascends unless it says otherwise. -/
def OrderKey.read? (value : Json) : Option OrderKey := do
  let record ← value.record? ["field", "direction"]
  let field ← record.required "field" FieldRef.read?
  let direction ← record.defaulted "direction" .ascending Direction.read?
  some ⟨field, direction⟩

def Page.read? (value : Json) : Option Page := do
  let record ← value.record? ["items", "page"]
  let items ← record.required "items" (Json.readUnsigned? 64)
  let page ← record.required "page" (Json.readUnsigned? 64)
  some ⟨items, page⟩

namespace Filter

/-- The operators of filters in their order. -/
def operators : List String :=
  ["and", "or", "not", "=", "!=", "<", "<=", ">", ">=", "between", "is-null", "not-null",
    "starts-with", "contains", "all"]

/-- The operator that a tag names. A filter within another may also give its place in the order. -/
def readOperator? (inner : Bool) : Json → Option String
  | .string name => some name
  | .whole place => if inner && 0 ≤ place then operators[place.toNat]? else none
  | _ => none

def readCompare? (comparison : Comparison) (content : Json) : Option Filter := do
  let record ← content.record? ["field", "value"]
  let field ← record.required "field" FieldRef.read?
  let value ← record.required "value" Json.readAny?
  some (.compare comparison field value)

def readBetween? (content : Json) : Option Filter := do
  let record ← content.record? ["field", "min", "max"]
  let field ← record.required "field" FieldRef.read?
  let least ← record.required "min" Json.readAny?
  let greatest ← record.required "max" Json.readAny?
  some (.between field least greatest)

def readOnField? (build : FieldRef → Filter) (content : Json) : Option Filter := do
  let record ← content.record? ["field"]
  (record.required "field" FieldRef.read?).map build

/-- A filter on the text of a field. -/
def readOnText? (build : FieldRef → String → Filter) (content : Json) : Option Filter := do
  let record ← content.record? ["field", "value"]
  let field ← record.required "field" FieldRef.read?
  let value ← record.required "value" Json.readText?
  some (build field value)

/-- A filter, tagged by its operator. `fuel` bounds how deep filters nest. -/
def readTagged? : Nat → Bool → Json → Option Filter
  | 0, _, _ => none
  | fuel + 1, inner, value => do
    let (tag, content) ← value.tagged? "op"
    match ← readOperator? inner tag with
    | "and" => do
      let record ← content.record? ["clauses"]
      (record.required "clauses" (Json.readList? (readTagged? fuel true))).map .and
    | "or" => do
      let record ← content.record? ["clauses"]
      (record.required "clauses" (Json.readList? (readTagged? fuel true))).map .or
    | "not" => do
      let record ← content.record? ["clause"]
      (record.required "clause" (readTagged? fuel true)).map .not
    | "=" => readCompare? .equal content
    | "!=" => readCompare? .notEqual content
    | "<" => readCompare? .less content
    | "<=" => readCompare? .lessOrEqual content
    | ">" => readCompare? .greater content
    | ">=" => readCompare? .greaterOrEqual content
    | "between" => readBetween? content
    | "is-null" => readOnField? .isNull content
    | "not-null" => readOnField? .notNull content
    | "starts-with" => readOnText? .startsWith content
    | "contains" => readOnText? .contains content
    | "all" => (content.record? []).map fun _ => .all
    | _ => none

/-- The filter clause of a request. Null is no filter, and an array of nothing but nulls matches
every row. -/
def read? (value : Json) : Option (Option Filter) :=
  match value.normalise with
  | .null => some none
  | .array items =>
    if items.all Json.isNull then some (some .all)
    else (readTagged? (value.depth + 1) false (.array items)).map some
  | other => (readTagged? (value.depth + 1) false other).map some

end Filter

def Query.read? (value : Json) : Option Query := do
  let record ← value.record?
    ["source_table", "filter", "aggregation", "breakout", "order_by", "fields", "limit", "page"]
  let sourceTable ← record.required "source_table" Json.readInt64?
  let filter ← record.defaulted "filter" none Filter.read?
  let aggregation ← record.defaulted "aggregation" .rows Aggregation.read?
  let breakout ← record.defaulted "breakout" [] (Json.readList? FieldRef.read?)
  let orderBy ← record.defaulted "order_by" [] (Json.readList? OrderKey.read?)
  let fields ← record.defaulted "fields" [] (Json.readList? FieldRef.read?)
  let limit ← record.defaulted "limit" none (Json.nullable (Json.readUnsigned? 64))
  let page ← record.defaulted "page" none (Json.nullable Page.read?)
  some
    { sourceTable := sourceTable
      filter := filter
      aggregation := aggregation
      breakout := breakout
      orderBy := orderBy
      fields := fields
      limit := limit
      page := page }

def Request.read? (value : Json) : Option Request := do
  let record ← value.record? ["database_id", "query"]
  let databaseId ← record.required "database_id" Json.readInt64?
  let query ← record.required "query" Query.read?
  some ⟨databaseId, query⟩

def Request.parse? (text : String) : Option Request := do
  Request.read? (← Json.parse? text)

end CrossQuery
