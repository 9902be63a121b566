import CrossQuery.Proofs.Agreement.Aggregates
import CrossQuery.Proofs.Collection.Grouped

/-!
# Groups of both stores

Both stores answer a portable query for an aggregate, of the groups of one field or of all records,
with the same rows in the same order.
-/

set_option autoImplicit false

namespace CrossQuery

open Collection

/-- A group of records: the first of them, and all of them. -/
abbrev RecordGroup := TableRecord × List TableRecord

/-- The value of a field in the first record of a group. -/
def groupValue (group : RecordGroup) (field : PlanField) : Cell :=
  valueIn group.1.1 field

/-- Records in groups of one value of a field. -/
def recordGroups (field : PlanField) (records : List TableRecord) : List RecordGroup :=
  Grouping.groups (fun record => (valueIn record.1 field).groupKey) records

def aggregateStatement (plan : Plan) (source : Table) (kind : AggregateKind)
    (of : Option PlanField) (expression : Select.Expression) : Select.Statement :=
  { projections := plan.breakout.map projectionOf ++
      [⟨expression, some ((Capabilities.relational .upperCase).columnName (.aggregate kind of))⟩]
    source := ⟨Naming.upperCase.spell source.name, none⟩
    joins := []
    filter := plan.filter.map (Relational.condition .upperCase)
    groupBy := plan.breakout.map (Relational.columnOfField .upperCase)
    orderBy := plan.orderBy.map (Relational.sortKeyOfOrder .upperCase)
    limit := plan.limit
    offset := plan.offset }

section Statement

variable {stores : EmbeddedStores} {source : Table} {fields : List Field} {columns : List Column}
  {records : List TableRecord} {query : Query} {plan : Plan} {kind : AggregateKind}
  {of : Option PlanField} {expression : Select.Expression}

theorem statementOfPlan_aggregate (isSource : plan.source = source) (noJoins : plan.joins = [])
    (isAggregate : plan.columns = plan.breakout.map .field ++ [.aggregate kind of])
    (compiled : Relational.aggregateExpression .upperCase kind of = .ok expression) :
    Relational.statementOfPlan .upperCase plan =
      .ok (aggregateStatement plan source kind of expression) := by
  have fieldsProjected :
      (plan.breakout.map .field).mapM (Relational.projectionOfColumn .upperCase) =
        .ok (plan.breakout.map projectionOf) := by
    rw [List.mapM_map]
    exact Outcome.mapM_eq_ok_map fun field _ => rfl
  have lastProjected : [PlanColumn.aggregate kind of].mapM
      (Relational.projectionOfColumn .upperCase) =
        .ok [⟨expression,
          some ((Capabilities.relational .upperCase).columnName (.aggregate kind of))⟩] := by
    simp [Relational.projectionOfColumn, compiled]
  have projected := Outcome.mapM_append_eq_ok fieldsProjected lastProjected
  rw [← isAggregate] at projected
  simp [Relational.statementOfPlan, projected, isSource, noJoins, aggregateStatement]

/-- The columns of the answer to the statement of an aggregate. -/
theorem Shared.exists_columns (shared : Shared stores source fields columns records)
    (isKnown : ∀ field ∈ plan.breakout, field ∈ planFields source fields)
    (computes : Computes source columns kind of records expression) :
    ∃ described, (aggregateStatement plan source kind of expression).projections.mapM
      (scopeOf source columns).columnOf = .ok described := by
  refine Outcome.exists_mapM fun projection member => ?_
  rcases List.mem_append.mp member with isField | isLast
  · obtain ⟨field, isBreakout, rfl⟩ := List.mem_map.mp isField
    obtain ⟨type, isType⟩ := shared.typeOf_column field (isKnown field isBreakout)
    exact ⟨_, Outcome.bind_eq_ok.mpr ⟨type, isType, rfl⟩⟩
  · obtain rfl := List.mem_singleton.mp isLast
    obtain ⟨type, isType⟩ := computes.typed
    exact ⟨_, Outcome.bind_eq_ok.mpr ⟨type, isType, rfl⟩⟩

/-- A row for a group has the values that the group is made by, and the aggregate of its
records. -/
theorem orderedRow_of_group (plan : Plan) (value : PlanField → Cell)
    (computes : Computes source columns kind of records expression) (group : Relational.Group)
    {members : List TableRecord}
    (part : List.Sublist members records) (rows : group.rows = members.map Prod.fst)
    (keys : ∀ field ∈ plan.breakout,
      group.keyOf? (plan.breakout.map (Relational.columnOfField .upperCase))
        (Relational.columnOfField .upperCase field) = some (value field))
    (ordered : ∀ order ∈ plan.orderBy, order.field ∈ plan.breakout) :
    Relational.orderedRow (aggregateStatement plan source kind of expression)
        (group.evaluate (scopeOf source columns)
          (plan.breakout.map (Relational.columnOfField .upperCase))) =
      .ok ⟨plan.breakout.map value ++ [aggregateCell kind (sourceValues of members)],
        plan.orderBy.map fun order => value order.field⟩ := by
  have column : ∀ field ∈ plan.breakout,
      group.evaluate (scopeOf source columns)
          (plan.breakout.map (Relational.columnOfField .upperCase))
          (Relational.columnOfField .upperCase field) =
        .ok (value field) := by
    intro field isBreakout
    have key := keys field isBreakout
    rw [Relational.columnOfField] at key ⊢
    rw [Relational.Group.evaluate, Relational.Group.keyOr, key]
  have values : (aggregateStatement plan source kind of expression).projections.mapM
      (fun projection => group.evaluate (scopeOf source columns)
        (plan.breakout.map (Relational.columnOfField .upperCase)) projection.expression) =
      .ok (plan.breakout.map value ++ [aggregateCell kind (sourceValues of members)]) := by
    have last := computes.evaluated plan.breakout group members part rows
    refine Outcome.mapM_append_eq_ok ?_ ?_
    · rw [List.mapM_map]
      exact Outcome.mapM_eq_ok_map column
    · rw [List.mapM_cons, last]
      rfl
  rw [Relational.orderedRow, values, Outcome.ok_bind, aggregateStatement, List.mapM_map]
  refine Outcome.bind_eq_ok.mpr ⟨_, Outcome.mapM_eq_ok_map fun order member => ?_, rfl⟩
  exact column order.field (ordered order member)

theorem isAggregate_aggregateStatement
    (computes : Computes source columns kind of records expression) :
    (aggregateStatement plan source kind of expression).isAggregate = true := by
  simp [Select.Statement.isAggregate, aggregateStatement, computes.isAggregate]

/-- The answer to the statement of an aggregate, from the groups that it makes. -/
theorem Shared.answer_aggregate (shared : Shared stores source fields columns records)
    (portable : plan.Portable query source (planFields source fields))
    (isAggregate : plan.columns = plan.breakout.map .field ++ [.aggregate kind of])
    (isKnown : ∀ field ∈ plan.breakout, field ∈ planFields source fields)
    (exact : Exact (planFields source fields) records kind of)
    {α : Type} {items : List α} {groupOf : α → Relational.Group}
    {members : α → List TableRecord} (value : α → PlanField → Cell)
    (grouped : (scopeOf source columns).group
        (plan.breakout.map (Relational.columnOfField .upperCase))
        ((keptRecords plan.filter (fun record => valueIn record.1) records).map Prod.fst) =
      .ok (items.map groupOf))
    (areMembers : ∀ item ∈ items, List.Sublist (members item) records ∧
      (groupOf item).rows = (members item).map Prod.fst)
    (keys : ∀ item ∈ items, ∀ field ∈ plan.breakout,
      (groupOf item).keyOf? (plan.breakout.map (Relational.columnOfField .upperCase))
        (Relational.columnOfField .upperCase field) = some (value item field)) :
    ∃ statement answer, Relational.statementOfPlan .upperCase plan = .ok statement ∧
      stores.database.answer statement = .ok answer ∧
      answer.rows = (Relational.window plan.offset plan.limit
        (Relational.sortRows (plan.orderBy.map (Relational.sortKeyOfOrder .upperCase))
          (items.map fun item =>
            ⟨plan.breakout.map (value item) ++ [aggregateCell kind (sourceValues of (members item))],
              plan.orderBy.map fun order => value item order.field⟩))).map
        Relational.OrderedRow.values := by
  obtain ⟨expression, computes⟩ := (shared.aggregable exact).exists_computes
  have isAggregated : plan.isAggregated = true := by
    rw [Plan.isAggregated, isAggregate]
    simp [PlanColumn.isAggregate]
  have filtered := shared.mirrored.filter_rows portable.filter
    fun record _ => shared.evaluate_column record.1
  obtain ⟨described, isDescribed⟩ := shared.exists_columns isKnown computes
  have answered : Relational.Joined.answerRows ⟨scopeOf source columns, records.map Prod.fst⟩
      (aggregateStatement plan source kind of expression)
      ((keptRecords plan.filter (fun record => valueIn record.1) records).map Prod.fst) =
        .ok (items.map fun item =>
          ⟨plan.breakout.map (value item) ++ [aggregateCell kind (sourceValues of (members item))],
            plan.orderBy.map fun order => value item order.field⟩) := by
    rw [Relational.Joined.answerRows, isAggregate_aggregateStatement computes, if_pos rfl]
    refine Outcome.bind_eq_ok.mpr ⟨_, grouped, ?_⟩
    rw [List.mapM_map]
    refine Outcome.mapM_eq_ok_map fun item member => ?_
    obtain ⟨part, rows⟩ := areMembers item member
    exact orderedRow_of_group plan _ computes _ part rows (keys item member)
      (shared.order_mem_breakout portable isKnown isAggregated)
  have answer := Relational.Database.answer_of_clauses
    (aggregateStatement plan source kind of expression) rfl shared.rows rfl filtered isDescribed
    answered
  exact ⟨_, _, statementOfPlan_aggregate portable.source portable.joins isAggregate computes.compiled, answer, rfl⟩

theorem Shared.kept_sublist (filter : Option Predicate) (records : List TableRecord) :
    List.Sublist (keptRecords filter (fun record => valueIn record.1) records) records := by
  cases filter with
  | none => exact List.Sublist.refl _
  | some predicate => exact List.filter_sublist

/-- Rows are grouped like their records. -/
theorem Shared.group_by_field (shared : Shared stores source fields columns records)
    {field : PlanField} (isKnown : field ∈ planFields source fields)
    (kept : List TableRecord) :
    (scopeOf source columns).group [Relational.columnOfField .upperCase field]
        (kept.map Prod.fst) =
      .ok ((recordGroups field kept).map fun group =>
        ⟨[groupValue group field], group.2.map Prod.fst⟩) := by
  have keyed : (scopeOf source columns).keyed [Relational.columnOfField .upperCase field]
      (kept.map Prod.fst) =
        .ok (kept.map fun record => ([valueIn record.1 field], record.1)) := by
    rw [Relational.Scope.keyed, List.mapM_map]
    refine Outcome.mapM_eq_ok_map fun record _ => ?_
    have value := shared.evaluate_column record.1 field isKnown
    simp [Relational.Scope.evaluateAll, value]
  have agree : Grouping.KeysAgree (fun record : TableRecord => (valueIn record.1 field).groupKey)
      (fun entry : List Cell × List Cell => entry.1.map Cell.groupKey)
      (fun record => ([valueIn record.1 field], record.1)) kept :=
    .of_eq (fun _ _ => rfl) fun _ _ same => (List.cons.inj same).1
  rw [Relational.Scope.group, List.isEmpty_cons, if_neg Bool.false_ne_true, keyed, Outcome.ok_bind,
    Grouping.groups_map agree]
  refine congrArg Except.ok ?_
  rw [List.map_map, recordGroups]
  refine List.map_congr_left fun group _ => ?_
  rw [Function.comp_apply, List.map_map]
  rfl

end Statement

section Pipeline

variable {stores : EmbeddedStores} {source : Table} {fields : List Field} {columns : List Column}
  {records kept : List TableRecord} {query : Query} {plan : Plan} {kind : AggregateKind}
  {of : Option PlanField} {field : PlanField}

theorem runStage_group (specification : Json) (documents : List Document) :
    runStage documents (single "$group" specification) =
      groupDocuments documents specification := by
  simp [runStage, single]

/-- The document of a group behind the projection. -/
def groupDocument (field : PlanField) (kind : AggregateKind) (of : Option PlanField)
    (group : RecordGroup) : Document :=
  groupedDocument (keyName field) ((Json.lookup? (keyName field) group.1.2).getD .null)
    (aggregateJson kind (sourceValues of group.2))

/-- Documents are grouped like their records. -/
theorem Shared.run_groupStages (shared : Shared stores source fields columns records)
    (isKnown : field ∈ planFields source fields) (apart : keyName field ≠ aggregateField)
    (part : List.Sublist kept records) {name : String} {argument : Json}
    {accumulator : Accumulator} {share : Document → Option Json}
    (accumulates : Accumulates kind of records name argument accumulator share) :
    [single "$group" (.object [("_id", groupIdentifier [keyName field]),
        (aggregateField, single name argument)]),
      single "$project" (.object (collect
        [(keyName field, .string (pathText ("_id." ++ breakoutName 0))),
          (aggregateField, aggregateProjection kind)]))].foldlM runStage (kept.map Prod.snd) =
      .ok ((recordGroups field kept).map (groupDocument field kind of)) := by
  have agree : Grouping.KeysAgree (fun record : TableRecord => (valueIn record.1 field).groupKey)
      (fun document : Document => groupKey (fieldIdentifier (keyName field) document)) Prod.snd
      kept := by
    refine .of_eq (fun record member => ?_) fun _ _ => identifierKey_injective
    have stored := shared.mirrored.stored record (part.subset member) field isKnown
    rw [groupKey_fieldIdentifier, stored.of_getD.groupKey_json]
  have grouped := groupDocuments_single
    (evaluate_identifier_single (shared.plain field isKnown)) accumulates.named
    accumulates.evaluated (kept.map Prod.snd)
  rw [Grouping.groups_map agree, List.map_map] at grouped
  have projected : ((recordGroups field kept).map
      (totalDocument (fieldIdentifier (keyName field)) accumulator share ∘
        fun group => (group.1.2, group.2.map Prod.snd))).mapM
      (project (.object (collect [(keyName field, .string (pathText ("_id." ++ breakoutName 0))),
          (aggregateField, aggregateProjection kind)]))) =
        .ok ((recordGroups field kept).map (groupDocument field kind of)) := by
    rw [List.mapM_map]
    refine Outcome.mapM_eq_ok_map fun group isGroup => ?_
    obtain ⟨isFirst, members⟩ := Grouping.members_of_mem_groups isGroup
    refine project_grouped apart (aggregateProjection_computed kind) ?_
    refine accumulates.projected group.2 (members.trans part) (List.ne_nil_of_mem isFirst) _ ?_
    rw [List.map_map]
    rfl
  rw [List.foldlM_cons, runStage_group, grouped, Outcome.ok_bind, List.foldlM_cons,
    runStage_project]
  rw [recordGroups] at projected ⊢
  rw [projected]
  rfl

theorem Exact.direct (exact : Exact (planFields source fields) records kind of) :
    ∀ field, of = some field → field.isJoined = false := by
  intro field isSource
  cases exact with
  | count => cases isSource
  | distinct isKnown =>
      cases isSource
      exact Shared.direct field isKnown
  | sum isKnown =>
      cases isSource
      exact Shared.direct field isKnown

/-- The documents of groups hold the values that the groups are made by. -/
theorem Shared.mirrored_groups (shared : Shared stores source fields columns records)
    (isKnown : field ∈ planFields source fields) (part : List.Sublist kept records)
    (kind : AggregateKind) (of : Option PlanField) :
    Mirrored [field] groupValue (groupDocument field kind of) (recordGroups field kept) where
  admitted group isGroup other isField := by
    obtain rfl := List.mem_singleton.mp isField
    have isFirst := (Grouping.mem_groups isGroup).1
    exact shared.mirrored.admitted group.1 (part.subset isFirst) other isKnown
  stored group isGroup other isField := by
    obtain rfl := List.mem_singleton.mp isField
    have isFirst := (Grouping.mem_groups isGroup).1
    rw [groupDocument, lookup?_groupedDocument_key]
    exact (shared.mirrored.stored group.1 (part.subset isFirst) other isKnown).of_getD

/-- The groups that a plan for an aggregate returns, in order. -/
def answeredGroups (plan : Plan) (field : PlanField) (records : List TableRecord) :
    List RecordGroup :=
  Relational.window plan.offset plan.limit
    (sortBy groupValue plan.orderBy
      (recordGroups field (keptRecords plan.filter (fun record => valueIn record.1) records)))

theorem mem_of_mem_answeredGroups {group : RecordGroup}
    (member : group ∈ answeredGroups plan field records) :
    group ∈ recordGroups field
      (keptRecords plan.filter (fun record => valueIn record.1) records) :=
  mem_sortBy.mp (Relational.mem_of_mem_window member)

/-- The database answers with the groups of the plan. -/
theorem Shared.answer_groups (shared : Shared stores source fields columns records)
    (portable : plan.Portable query source (planFields source fields))
    (isBreakout : plan.breakout = [field])
    (isAggregate : plan.columns = plan.breakout.map .field ++ [.aggregate kind of])
    (isKnown : field ∈ planFields source fields)
    (exact : Exact (planFields source fields) records kind of) :
    ∃ statement answer, Relational.statementOfPlan .upperCase plan = .ok statement ∧
      stores.database.answer statement = .ok answer ∧
      answer.rows = (answeredGroups plan field records).map fun group =>
        [groupValue group field, aggregateCell kind (sourceValues of group.2)] := by
  have part := Shared.kept_sublist plan.filter records
  have allKnown : ∀ other ∈ plan.breakout, other ∈ planFields source fields := by
    rw [isBreakout]
    exact fun other member => List.mem_singleton.mp member ▸ isKnown
  have isAggregated : plan.isAggregated = true := by
    rw [Plan.isAggregated, isAggregate]
    simp [PlanColumn.isAggregate]
  have ordered := shared.order_mem_breakout portable allKnown isAggregated
  have grouped := shared.group_by_field isKnown
    (keptRecords plan.filter (fun record => valueIn record.1) records)
  rw [show [Relational.columnOfField .upperCase field] =
    plan.breakout.map (Relational.columnOfField .upperCase) by rw [isBreakout]; rfl] at grouped
  obtain ⟨statement, answer, compiled, answered, rows⟩ :=
    shared.answer_aggregate portable isAggregate allKnown exact groupValue grouped
      (fun group isGroup => ⟨(Grouping.members_of_mem_groups isGroup).2.trans part, rfl⟩)
      (fun group _ other isOther => by
        rw [isBreakout] at isOther ⊢
        obtain rfl := List.mem_singleton.mp isOther
        simp [Relational.Group.keyOf?, Relational.columnOfField, Select.Expression.same])
  refine ⟨statement, answer, compiled, answered, ?_⟩
  have orderKnown : ∀ order ∈ plan.orderBy, order.field ∈ [field] :=
    fun order member => isBreakout ▸ ordered order member
  let row (group : RecordGroup) : Relational.OrderedRow :=
    ⟨[field].map (groupValue group) ++ [aggregateCell kind (sourceValues of group.2)],
      plan.orderBy.map fun order => groupValue group order.field⟩
  have keys : ∀ group ∈ recordGroups field
      (keptRecords plan.filter (fun record => valueIn record.1) records),
      (row group).keys = plan.orderBy.map fun order => groupValue group order.field :=
    fun group _ => rfl
  have sorted :=
    (shared.mirrored_groups isKnown part kind of).sortRows_map .upperCase orderKnown keys
  rw [rows, isBreakout, sorted, Relational.window_map, List.map_map]
  rfl

/-- The store of documents answers with the documents of the same groups. -/
theorem Shared.aggregate_groups (shared : Shared stores source fields columns records)
    (portable : plan.Portable query source (planFields source fields))
    (isBreakout : plan.breakout = [field])
    (isAggregate : plan.columns = plan.breakout.map .field ++ [.aggregate kind of])
    (isKnown : field ∈ planFields source fields) (apart : keyName field ≠ aggregateField)
    (few : records.length < 2 ^ 63)
    (exact : Exact (planFields source fields) records kind of) :
    ∃ pipeline, pipelineOfPlan plan = .ok pipeline ∧
      stores.documents.aggregate pipeline.collection pipeline.stages =
        .ok ((answeredGroups plan field records).map (groupDocument field kind of)) := by
  have part := Shared.kept_sublist plan.filter records
  have allKnown : ∀ other ∈ plan.breakout, other ∈ planFields source fields := by
    rw [isBreakout]
    exact fun other member => List.mem_singleton.mp member ▸ isKnown
  have isAggregated : plan.isAggregated = true := by
    rw [Plan.isAggregated, isAggregate]
    simp [PlanColumn.isAggregate]
  have orderKnown : ∀ order ∈ plan.orderBy, order.field ∈ [field] :=
    fun order member =>
      isBreakout ▸ shared.order_mem_breakout portable allKnown isAggregated order member
  obtain ⟨name, argument, accumulator, share, accumulates⟩ :=
    (shared.aggregable exact).exists_accumulates few
  obtain ⟨filterStages, filterCompiled, filterRun⟩ :=
    shared.mirrored.filter_documents portable.filter Shared.direct shared.plain
  obtain ⟨entries, sortCompiled, sortRun⟩ :=
    run_sortStages (fun order member => Shared.direct _ (portable.orderBy.known order member))
      (shared.orderKeys_nodup portable.orderBy.known portable.orderBy.distinct)
  have windowRun := run_windowStages portable.offset portable.limit
  have groupRun := shared.run_groupStages isKnown apart part accumulates
  have single : (plan.breakout.map PlanField.ref).Nodup := by
    rw [isBreakout]
    exact List.pairwise_singleton _ _
  have compiled := pipelineOfPlan_aggregate portable.joins isAggregate
    (fun other member => Shared.direct other (allKnown other member)) single exact.direct
    accumulates.compiled filterCompiled sortCompiled
  have entry : [field].zipIdx.map breakoutEntry ++ [(aggregateField, aggregateProjection kind)] =
      [(keyName field, .string (pathText ("_id." ++ breakoutName 0))),
        (aggregateField, aggregateProjection kind)] := rfl
  rw [isBreakout, entry, portable.source] at compiled
  have sorted := (shared.mirrored_groups isKnown part kind of).sortDocuments_map
    (fun other member => List.mem_singleton.mp member ▸ shared.plain field isKnown) orderKnown
  refine ⟨_, compiled, ?_⟩
  rw [Store.aggregate, shared.documents, List.foldlM_append, List.foldlM_append,
    List.foldlM_append, filterRun, Outcome.ok_bind]
  rw [show [field].map keyName = [keyName field] from rfl, groupRun, Outcome.ok_bind, sortRun,
    Outcome.ok_bind, windowRun, sorted, Relational.window_map]
  rfl

/-- What the document of a group is read back as has the JSON of the row of the group. -/
theorem Shared.toJson_groupDocument (shared : Shared stores source fields columns records)
    (isKnown : field ∈ planFields source fields) (apart : keyName field ≠ aggregateField)
    (few : records.length < 2 ^ 63) (exact : Exact (planFields source fields) records kind of)
    {group : RecordGroup}
    (isGroup : group ∈ recordGroups field
      (keptRecords plan.filter (fun record => valueIn record.1) records)) :
    (rowOfDocument [keyName field, aggregateField] (groupDocument field kind of group)).map
        Cell.toJson =
      [groupValue group field, aggregateCell kind (sourceValues of group.2)].map Cell.toJson := by
  have part := (Grouping.members_of_mem_groups isGroup).2.trans
    (Shared.kept_sublist plan.filter records)
  have mirrored := shared.mirrored_groups isKnown (Shared.kept_sublist plan.filter records) kind of
  have value := (mirrored.stored group isGroup field (List.mem_singleton.mpr rfl)).toJson_eq
    (mirrored.admitted group isGroup field (List.mem_singleton.mpr rfl))
  have fewer : (sourceValues of group.2).length < 2 ^ 63 := by
    rw [sourceValues, List.length_map]
    exact Nat.lt_of_le_of_lt part.length_le few
  have total := toJson_aggregate kind fewer fun isSum => by
    subst isSum
    exact (shared.aggregable exact).summable part
  have held : Json.lookup? aggregateField (groupDocument field kind of group) =
      some (aggregateJson kind (sourceValues of group.2)) :=
    lookup?_groupedDocument_aggregate apart _ _
  simp only [rowOfDocument, List.map_cons, List.map_nil, value, held, Option.map_some,
    Option.getD_some, total]

end Pipeline

end CrossQuery
