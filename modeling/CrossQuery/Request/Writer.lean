import CrossQuery.Json.Shape
import CrossQuery.Request

/-!
# Writing requests

Requests as JSON, with every clause present.
-/

set_option autoImplicit false

namespace CrossQuery

def FieldRef.toJson : FieldRef → Json
  | .direct id => .whole id
  | .through key destination => .object [("fk", .whole key), ("dest", .whole destination)]

def Aggregation.toJson : Aggregation → Json
  | .rows => .object [("kind", .string "rows")]
  | .count => .object [("kind", .string "count")]
  | .sum field => .object [("kind", .string "sum"), ("field", field.toJson)]
  | .distinct field => .object [("kind", .string "distinct"), ("field", field.toJson)]
  | .average field => .object [("kind", .string "avg"), ("field", field.toJson)]

def Direction.name : Direction → String
  | .ascending => "ascending"
  | .descending => "descending"

def OrderKey.toJson (key : OrderKey) : Json :=
  .object [("field", key.field.toJson), ("direction", .string key.direction.name)]

def Page.toJson (page : Page) : Json :=
  .object [("items", Json.ofNat page.items), ("page", Json.ofNat page.page)]

namespace Filter

mutual

def toJson : Filter → Json
  | .and clauses => .object [("op", .string "and"), ("clauses", .array (toJsonClauses clauses))]
  | .or clauses => .object [("op", .string "or"), ("clauses", .array (toJsonClauses clauses))]
  | .not clause => .object [("op", .string "not"), ("clause", clause.toJson)]
  | .compare comparison field value =>
    .object [("op", .string comparison.sign), ("field", field.toJson), ("value", value)]
  | .between field least greatest =>
    .object [("op", .string "between"), ("field", field.toJson), ("min", least),
      ("max", greatest)]
  | .isNull field => .object [("op", .string "is-null"), ("field", field.toJson)]
  | .notNull field => .object [("op", .string "not-null"), ("field", field.toJson)]
  | .startsWith field value =>
    .object [("op", .string "starts-with"), ("field", field.toJson), ("value", .string value)]
  | .contains field value =>
    .object [("op", .string "contains"), ("field", field.toJson), ("value", .string value)]
  | .all => .object [("op", .string "all")]

def toJsonClauses : List Filter → List Json
  | [] => []
  | clause :: rest => clause.toJson :: toJsonClauses rest

end

end Filter

def Query.toJson (query : Query) : Json :=
  .object
    [("source_table", .whole query.sourceTable),
      ("filter", Json.ofOption Filter.toJson query.filter),
      ("aggregation", query.aggregation.toJson),
      ("breakout", .array (query.breakout.map FieldRef.toJson)),
      ("order_by", .array (query.orderBy.map OrderKey.toJson)),
      ("fields", .array (query.fields.map FieldRef.toJson)),
      ("limit", Json.ofOption Json.ofNat query.limit),
      ("page", Json.ofOption Page.toJson query.page)]

def Request.toJson (request : Request) : Json :=
  .object [("database_id", .whole request.databaseId), ("query", request.query.toJson)]

end CrossQuery
