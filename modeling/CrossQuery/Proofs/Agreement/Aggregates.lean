import CrossQuery.Proofs.Agreement.Rows
import CrossQuery.Proofs.Agreement.Totals
import CrossQuery.Proofs.Collection.Pipelines

/-!
# Aggregates of records

How a statement and a pipeline ask for an aggregate of the records of a group, and that both are
given the same one.
-/

set_option autoImplicit false

namespace CrossQuery

open Collection

/-- A row of a table with its document. -/
abbrev TableRecord := List Cell × Document

/-- The value that an aggregate takes from a row. A count takes none. -/
def sourceValue (source : Option PlanField) (row : List Cell) : Cell :=
  match source with
  | some field => valueIn row field
  | none => .null

/-- The values that an aggregate takes from records. -/
def sourceValues (source : Option PlanField) (records : List TableRecord) : List Cell :=
  records.map fun record => sourceValue source record.1

/-- An aggregate that both stores compute alike. The sum of any of the records fits 64 bits. -/
inductive Exact (known : List PlanField) (records : List TableRecord) :
    AggregateKind → Option PlanField → Prop where
  | count : Exact known records .count none
  | distinct {field : PlanField} : field ∈ known → Exact known records .distinct (some field)
  | sum {field : PlanField} :
      field ∈ known → field.field.baseType = .integer ∨ field.field.baseType = .bigInteger →
      magnitude (sourceValues (some field) records) < 2 ^ 63 →
      Exact known records .sum (some field)

/-- A field that both stores hold alike: its column is resolved in rows, and each document holds
under its key what the row has in the column. -/
structure FieldHeld (source : Table) (columns : List Column) (records : List TableRecord)
    (field : PlanField) : Prop where
  reads : ∀ row, (scopeOf source columns).evaluate row
    (Relational.columnOfField .upperCase field) = .ok (valueIn row field)
  plain : PlainName (keyName field)
  alike : ∀ record ∈ records,
    (valueIn record.1 field).Alike (Json.lookup? (keyName field) record.2)

/-- An aggregate of a field that both stores hold alike. What is added up are integers, and the sum
of any of the records fits 64 bits. -/
inductive Aggregable (source : Table) (columns : List Column) (records : List TableRecord) :
    AggregateKind → Option PlanField → Prop where
  | count : Aggregable source columns records .count none
  | distinct {field : PlanField} :
      FieldHeld source columns records field →
      Aggregable source columns records .distinct (some field)
  | sum {field : PlanField} :
      FieldHeld source columns records field →
      field.field.baseType = .integer ∨ field.field.baseType = .bigInteger →
      AllIntegers (presentCells (sourceValues (some field) records)) →
      magnitude (sourceValues (some field) records) < 2 ^ 63 →
      Aggregable source columns records .sum (some field)

section Values

variable {source : Table} {columns : List Column} {records members : List TableRecord}
  {of : Option PlanField}

theorem presentCells_sublist (cells : List Cell) : List.Sublist (presentCells cells) cells :=
  List.filter_sublist

/-- The values that are added up are integers, and few enough of them for 64 bits. -/
theorem Aggregable.summable (aggregable : Aggregable source columns records .sum of)
    (part : List.Sublist members records) :
    AllIntegers (presentCells (sourceValues of members)) ∧
      magnitude (presentCells (sourceValues of members)) < 2 ^ 63 := by
  cases aggregable with
  | @sum field _ _ integers small =>
      have values : List.Sublist (sourceValues (some field) members)
          (sourceValues (some field) records) := part.map _
      constructor
      · intro cell isPresent
        exact integers cell ((values.filter _).subset isPresent)
      · have present := magnitude_le ((presentCells_sublist _).trans values)
        exact Nat.lt_of_le_of_lt present small

end Values

section Database

variable {stores : EmbeddedStores} {source : Table} {fields : List Field} {columns : List Column}
  {records : List TableRecord} {kind : AggregateKind} {of : Option PlanField}

theorem Shared.held (shared : Shared stores source fields columns records) {field : PlanField}
    (isKnown : field ∈ planFields source fields) : FieldHeld source columns records field where
  reads row := shared.evaluate_column row field isKnown
  plain := shared.plain field isKnown
  alike record isRecord := (shared.mirrored.stored record isRecord field isKnown).alike

/-- A field of integers holds integers and nulls. -/
theorem Shared.allIntegers (shared : Shared stores source fields columns records)
    {field : PlanField} (isKnown : field ∈ planFields source fields)
    (isInteger : field.field.baseType = .integer ∨ field.field.baseType = .bigInteger) :
    AllIntegers (presentCells (sourceValues (some field) records)) := by
  intro cell isPresent
  obtain ⟨isValue, notNull⟩ := List.mem_filter.mp isPresent
  obtain ⟨record, isRecord, rfl⟩ := List.mem_map.mp isValue
  have admitted : field.field.baseType.Admits (valueIn record.1 field) :=
    shared.mirrored.admitted record isRecord field isKnown
  rw [sourceValue] at notNull ⊢
  generalize valueIn record.1 field = cell at admitted notNull
  generalize field.field.baseType = type at admitted isInteger
  cases admitted with
  | null => cases notNull
  | integer _ isValue => exact ⟨_, isValue⟩
  | boolean => rcases isInteger with same | same <;> cases same
  | text => rcases isInteger with same | same <;> cases same
  | date => rcases isInteger with same | same <;> cases same
  | timestamp => rcases isInteger with same | same <;> cases same

theorem Shared.aggregable (shared : Shared stores source fields columns records)
    (exact : Exact (planFields source fields) records kind of) :
    Aggregable source columns records kind of := by
  cases exact with
  | count => exact .count
  | distinct isKnown => exact .distinct (shared.held isKnown)
  | sum isKnown isInteger small =>
      exact .sum (shared.held isKnown) isInteger (shared.allIntegers isKnown isInteger) small

end Database

section Database

variable {source : Table} {columns : List Column} {records members : List TableRecord}
  {breakout : List PlanField} {group : Relational.Group}

/-- Only columns are known of a group because rows are grouped by them. -/
theorem keyOr_eq_otherwise {expression : Select.Expression}
    (notColumn : ∀ table name, (Select.Expression.column table name).same expression = false)
    (breakout : List PlanField) (group : Relational.Group)
    (otherwise : Except Relational.Refusal Cell) :
    group.keyOr (breakout.map (Relational.columnOfField .upperCase)) expression otherwise =
      otherwise := by
  have none : group.keyOf? (breakout.map (Relational.columnOfField .upperCase)) expression =
      none := by
    rw [Relational.Group.keyOf?, List.findSome?_eq_none_iff]
    intro entry member
    obtain ⟨field, _, isColumn⟩ := List.mem_map.mp (List.of_mem_zip member).1
    rw [← isColumn, Relational.columnOfField, notColumn]
    rfl
  rw [Relational.Group.keyOr, none]

theorem evaluate_aggregate (scope : Relational.Scope) (breakout : List PlanField)
    (group : Relational.Group) (name : String) (arguments : List Select.Expression)
    (distinct : Bool) :
    group.evaluate scope (breakout.map (Relational.columnOfField .upperCase))
        (.aggregate name arguments distinct) =
      group.aggregate scope name arguments distinct := by
  have notColumn : ∀ table column, (Select.Expression.column table column).same
    (.aggregate name arguments distinct) = false := fun _ _ => rfl
  rw [Relational.Group.evaluate, keyOr_eq_otherwise notColumn]

theorem evaluate_cast (scope : Relational.Scope) (breakout : List PlanField)
    (group : Relational.Group) (operand : Select.Expression) (type : String) :
    group.evaluate scope (breakout.map (Relational.columnOfField .upperCase))
        (.cast operand type) =
      (group.evaluate scope (breakout.map (Relational.columnOfField .upperCase)) operand >>=
        fun cell => Relational.convert cell type) := by
  have notColumn : ∀ table column, (Select.Expression.column table column).same
    (.cast operand type) = false := fun _ _ => rfl
  rw [Relational.Group.evaluate, keyOr_eq_otherwise notColumn]

/-- The values of a column in the rows of a group. -/
theorem FieldHeld.column_values {field : PlanField}
    (held : FieldHeld source columns records field) (members : List TableRecord) :
    (members.map Prod.fst).mapM (fun row =>
        (scopeOf source columns).evaluate row (Relational.columnOfField .upperCase field)) =
      .ok (sourceValues (some field) members) := by
  rw [List.mapM_map]
  exact Outcome.mapM_eq_ok_map fun record _ => held.reads record.1

theorem FieldHeld.aggregate_column {field : PlanField}
    (held : FieldHeld source columns records field) (name : String)
    (distinct : Bool) (rows : group.rows = members.map Prod.fst) :
    group.aggregate (scopeOf source columns) name [Relational.columnOfField .upperCase field]
        distinct =
      Relational.summarise name
        (if distinct then
          Grouping.firsts Cell.groupKey (presentCells (sourceValues (some field) members))
        else presentCells (sourceValues (some field) members)) := by
  have notWildcard :
      (Relational.columnOfField .upperCase field).same .wildcard = false := rfl
  rw [Relational.Group.aggregate, notWildcard, if_neg (by simp), rows, held.column_values]
  rfl

/-- An aggregate in a statement: the expression that computes it. -/
structure Computes (source : Table) (columns : List Column) (kind : AggregateKind)
    (of : Option PlanField) (records : List TableRecord) (expression : Select.Expression) :
    Prop where
  compiled : Relational.aggregateExpression .upperCase kind of = .ok expression
  typed : ∃ type, (scopeOf source columns).typeOf expression = .ok type
  isAggregate : expression.hasAggregate = true
  evaluated : ∀ (breakout : List PlanField) (group : Relational.Group) (members : List TableRecord),
    List.Sublist members records → group.rows = members.map Prod.fst →
    group.evaluate (scopeOf source columns)
        (breakout.map (Relational.columnOfField .upperCase)) expression =
      .ok (aggregateCell kind (sourceValues of members))

/-- Statements compute such aggregates. -/
theorem Aggregable.exists_computes {kind : AggregateKind} {of : Option PlanField}
    (aggregable : Aggregable source columns records kind of) :
    ∃ expression, Computes source columns kind of records expression := by
  cases isKind : aggregable with
  | count =>
      refine ⟨.aggregate "COUNT" [.wildcard] false, ⟨rfl, ⟨_, rfl⟩, rfl, ?_⟩⟩
      intro breakout group members part rows
      rw [evaluate_aggregate, Relational.Group.aggregate, if_pos ⟨rfl, rfl⟩, rows,
        List.length_map, aggregateCell, sourceValues, List.length_map]
  | @distinct field held =>
      refine ⟨.aggregate "COUNT" [Relational.columnOfField .upperCase field] true,
        ⟨rfl, ⟨_, rfl⟩, rfl, ?_⟩⟩
      intro breakout group members part rows
      rw [evaluate_aggregate, held.aggregate_column _ _ rows]
      rfl
  | @sum field held isInteger =>
      refine ⟨.cast (.aggregate "SUM" [Relational.columnOfField .upperCase field] false)
        (Relational.sumType field.field.baseType), ⟨rfl, ⟨_, rfl⟩, rfl, ?_⟩⟩
      intro breakout group members part rows
      have type : Relational.sumType field.field.baseType = "BIGINT" := by
        rcases isInteger with same | same <;> rw [same] <;> rfl
      obtain ⟨integers, few⟩ := aggregable.summable part
      obtain ⟨total, converted⟩ := summarise_sum integers few
      rw [evaluate_cast, evaluate_aggregate, held.aggregate_column _ _ rows,
        if_neg (by decide), total, type]
      exact converted

end Database

section Documents

variable {source : Table} {columns : List Column} {records : List TableRecord}
  {kind : AggregateKind} {of : Option PlanField}

/-- An aggregate in a pipeline: an accumulator of a share of each document, and the projection of
what that yields. -/
structure Accumulates (kind : AggregateKind) (source : Option PlanField)
    (records : List TableRecord) (name : String) (argument : Json) (accumulator : Accumulator)
    (share : Document → Option Json) : Prop where
  compiled : accumulatorOf kind (source.map keyName) = .ok (single name argument)
  named : Accumulator.ofName? name = some accumulator
  evaluated : ∀ document, evaluate document argument = .ok (share document)
  projected : ∀ members : List TableRecord, List.Sublist members records → members ≠ [] →
    ∀ document, Json.lookup? aggregateField document =
      some (accumulator.apply (members.map fun record => (share record.2).getD .null)) →
    evaluate document (aggregateProjection kind) =
      .ok (some (aggregateJson kind (sourceValues source members)))

/-- Pipelines accumulate such aggregates. -/
theorem Aggregable.exists_accumulates
    (aggregable : Aggregable source columns records kind of) (few : records.length < 2 ^ 63) :
    ∃ name argument accumulator share,
      Accumulates kind of records name argument accumulator share := by
  have alike : ∀ {field : PlanField} {members : List TableRecord},
      FieldHeld source columns records field → List.Sublist members records →
      ∀ record ∈ members, (sourceValue (some field) record.1).Alike
        (some ((Json.lookup? (keyName field) record.2).getD .null)) :=
    fun held part record isMember => (held.alike record (part.subset isMember)).of_getD
  cases isKind : aggregable with
  | count =>
      refine ⟨"$sum", .whole 1, .sum, fun _ => some (.whole 1), ⟨rfl, rfl, fun _ => rfl, ?_⟩⟩
      intro members part nonempty document stored
      have counted := apply_count nonempty (Nat.lt_of_le_of_lt part.length_le few)
      rw [show (fun record : TableRecord => ((fun _ : Document => some (Json.whole 1)) record.2).getD
        .null) = fun _ => .whole 1 from rfl, counted] at stored
      rw [aggregateProjection, evaluate_path plainName_aggregateField, stored, aggregateJson,
        sourceValues, List.length_map]
      intro same
      cases same
  | @distinct field held =>
      refine ⟨"$addToSet", .string (pathText (keyName field)), .set, Json.lookup? (keyName field),
        ⟨rfl, rfl, evaluate_path held.plain, ?_⟩⟩
      intro members part nonempty document stored
      obtain ⟨items, isSet, counted⟩ := apply_set (alike held part)
      rw [isSet] at stored
      rw [sourceValues, ← counted]
      exact evaluate_size plainName_aggregateField stored
  | @sum field held =>
      refine ⟨"$sum", .string (pathText (keyName field)), .sum, Json.lookup? (keyName field),
        ⟨rfl, rfl, evaluate_path held.plain, ?_⟩⟩
      intro members part nonempty document stored
      obtain ⟨integers, bound⟩ := aggregable.summable part
      rw [apply_sum (alike held part) integers bound] at stored
      rw [aggregateProjection, evaluate_path plainName_aggregateField, stored]
      · rfl
      · intro same
        cases same

end Documents

end CrossQuery
