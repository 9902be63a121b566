import CrossQuery.Proofs.Agreement.Source
import CrossQuery.Proofs.Relational.Answers

/-!
# Rows of both stores

Both stores answer a portable query for rows, with the same rows in the same order.
-/

set_option autoImplicit false

namespace CrossQuery

open Collection

/-- Both stores answer the plan that each was given, with rows of the same JSON. -/
def EmbeddedStores.AnswerAlike (stores : EmbeddedStores) (plan documentPlan : Plan) : Prop :=
  ∃ statement answer pipeline keys documents,
    Relational.statementOfPlan .upperCase plan = .ok statement ∧
    stores.database.answer statement = .ok answer ∧
    pipelineOfPlan documentPlan = .ok pipeline ∧
    stores.documents.aggregate pipeline.collection pipeline.stages = .ok documents ∧
    documentPlan.columns.mapM outputKey = .ok keys ∧
    answer.rows.map (·.map Cell.toJson) =
      (rowsetOfDocuments documentPlan keys
        (documentPlan.columns.map Capabilities.document.columnName) documents).rows.map
        (·.map Cell.toJson)

/-- The projection of a field under its display name. -/
def projectionOf (field : PlanField) : Select.Projection :=
  ⟨Relational.columnOfField .upperCase field,
    some ((Capabilities.relational .upperCase).columnName (.field field))⟩

section Statement

variable {stores : EmbeddedStores} {source : Table} {fields : List Field} {columns : List Column}
  {records : List (List Cell × Document)} {asked : List PlanField} {orderBy : List PlanOrder}

/-- The records that a plan for rows returns, in order. -/
def answeredRecords (plan : Plan) (records : List (List Cell × Document)) :
    List (List Cell × Document) :=
  Relational.window plan.offset plan.limit
    (sortBy (fun record => valueIn record.1) plan.orderBy
      (keptRecords plan.filter (fun record => valueIn record.1) records))

theorem mem_of_mem_answeredRecords {plan : Plan} {record : List Cell × Document}
    (member : record ∈ answeredRecords plan records) : record ∈ records :=
  mem_of_mem_keptRecords (mem_sortBy.mp (Relational.mem_of_mem_window member))

theorem Shared.mirrored_kept (shared : Shared stores source fields columns records)
    (filter : Option Predicate) :
    Mirrored (planFields source fields) (fun record => valueIn record.1) Prod.snd
      (keptRecords filter (fun record => valueIn record.1) records) :=
  shared.mirrored.of_subset fun _ member => mem_of_mem_keptRecords member

/-- The database answers a plan for rows with the records that pass the filter, in the order and
the window of the plan. -/
theorem Shared.answer_rows (shared : Shared stores source fields columns records) {query : Query}
    {plan : Plan} (portable : plan.Portable query source (planFields source fields))
    (isAsked : ∀ field ∈ asked, field ∈ planFields source fields)
    (isRows : plan.columns = asked.map .field) (ungrouped : plan.breakout = []) :
    ∃ statement answer, Relational.statementOfPlan .upperCase plan = .ok statement ∧
      stores.database.answer statement = .ok answer ∧
      answer.rows = (answeredRecords plan records).map fun record =>
        asked.map (valueIn record.1) := by
  have filtered := shared.mirrored.filter_rows portable.filter
    fun record _ => shared.evaluate_column record.1
  have isTable := shared.rows
  have isScope : scopeOf source columns =
      [⟨Naming.upperCase.spell plan.source.name, columns⟩] := by
    rw [portable.source, scopeOf]
  rw [← portable.source] at isTable
  obtain ⟨answer, answered, areRows⟩ := Relational.Database.answer_listing plan isTable isScope
    filtered (fun field member => shared.typeOf_column field (isAsked field member))
    (fun row field member => shared.evaluate_column row field (isAsked field member))
    fun row order member =>
      shared.evaluate_column row order.field (portable.orderBy.known order member)
  refine ⟨_, answer, Relational.statementOfPlan_listing isRows portable.joins ungrouped, answered,
    ?_⟩
  have keys : ∀ record ∈ keptRecords plan.filter (fun record => valueIn record.1) records,
      (Relational.orderedBy asked plan.orderBy (valueIn record.1)).keys =
        plan.orderBy.map fun order => valueIn record.1 order.field :=
    fun record _ => rfl
  have sorted :=
    (shared.mirrored_kept plan.filter).sortRows_map .upperCase portable.orderBy.known keys
  rw [areRows, List.map_map]
  rw [show (fun row => Relational.orderedBy asked plan.orderBy (valueIn row)) ∘ Prod.fst =
    fun record : List Cell × Document =>
      Relational.orderedBy asked plan.orderBy (valueIn record.1) from rfl]
  rw [sorted, Relational.window_map, List.map_map]
  rfl

end Statement

section Pipeline

variable {stores : EmbeddedStores} {source : Table} {fields : List Field} {columns : List Column}
  {records : List (List Cell × Document)} {asked : List PlanField}

/-- The keys of an order name different fields of documents. -/
theorem Shared.orderKeys_nodup (shared : Shared stores source fields columns records)
    {orderBy : List PlanOrder} (isKnown : ∀ order ∈ orderBy, order.field ∈ planFields source fields)
    (distinct : (orderBy.map PlanOrder.field).Nodup) :
    (orderBy.map fun order => keyName order.field).Nodup := by
  rw [List.Nodup, List.pairwise_map] at distinct ⊢
  refine distinct.imp_of_mem fun {left right} isLeft isRight differ same => differ ?_
  exact shared.keyName_injective (isKnown left isLeft) (isKnown right isRight) same

/-- The store of documents answers a plan for rows with the same records as the database. -/
theorem Shared.aggregate_rows (shared : Shared stores source fields columns records)
    {query : Query} {plan : Plan}
    (portable : plan.Portable query source (planFields source fields))
    (isAsked : ∀ field ∈ asked, field ∈ planFields source fields)
    (isRows : plan.columns = asked.map .field) :
    ∃ pipeline documents, pipelineOfPlan plan = .ok pipeline ∧
      stores.documents.aggregate pipeline.collection pipeline.stages = .ok documents ∧
      plan.columns.mapM outputKey = .ok (asked.map keyName) ∧
      documents.map (rowOfDocument (asked.map keyName)) =
        (answeredRecords plan records).map fun record =>
          rowOfDocument (asked.map keyName) record.2 := by
  have isDirect : ∀ field ∈ asked, field.isJoined = false :=
    fun field member => direct field (isAsked field member)
  obtain ⟨filterStages, filterCompiled, filterRun⟩ :=
    shared.mirrored.filter_documents portable.filter direct shared.plain
  obtain ⟨entries, sortCompiled, sortRun⟩ :=
    run_sortStages (fun order member => direct _ (portable.orderBy.known order member))
      (shared.orderKeys_nodup portable.orderBy.known portable.orderBy.distinct)
  have sorted := (shared.mirrored_kept plan.filter).sortDocuments_map shared.plain
    portable.orderBy.known
  have stored : stores.documents.documents plan.source.name = records.map Prod.snd := by
    rw [portable.source, shared.documents]
  rw [← stored] at filterRun
  obtain ⟨documents, aggregated, rows⟩ := Store.aggregate_listing plan
    (fun field member => shared.plain field (isAsked field member)) filterRun (sortRun _)
    portable.offset portable.limit
  refine ⟨_, documents, pipelineOfPlan_listing isRows portable.joins isDirect filterCompiled
    sortCompiled, aggregated, outputKeys_listing isRows isDirect, ?_⟩
  rw [rows, sorted, Relational.window_map, List.map_map]
  rfl

/-- What a document is read back as has the JSON of the row of its record. -/
theorem Shared.toJson_rowOfDocument (shared : Shared stores source fields columns records)
    (isAsked : ∀ field ∈ asked, field ∈ planFields source fields)
    {record : List Cell × Document} (isRecord : record ∈ records) :
    (rowOfDocument (asked.map keyName) record.2).map Cell.toJson =
      (asked.map (valueIn record.1)).map Cell.toJson := by
  rw [rowOfDocument, List.map_map, List.map_map, List.map_map]
  refine List.map_congr_left fun field member => ?_
  have isKnown := isAsked field member
  exact (shared.mirrored.stored record isRecord field isKnown).toJson_eq
    (shared.mirrored.admitted record isRecord field isKnown)

end Pipeline

/-- Both stores of a dataset answer a portable query for rows, with rows of the same JSON in the
same order. -/
theorem rows_answered_alike {dataset : Dataset} {stores : EmbeddedStores} {query : Query}
    {databaseId : Int} {maxRows : Option Nat} {plan documentPlan : Plan}
    (checked : dataset.check = .ok ()) (regular : dataset.Regular)
    (embedded : dataset.embed = .ok stores) (portable : query.Portable stores.catalog)
    (isRows : query.aggregation = .rows)
    (bounded : ∀ count, maxRows = some count → count < 2 ^ 64)
    (compiled : query.compile stores.catalog (.relational .upperCase) databaseId maxRows =
      .ok plan)
    (documentCompiled : query.compile stores.catalog .document databaseId maxRows =
      .ok documentPlan) :
    stores.AnswerAlike plan documentPlan := by
  obtain ⟨sameCatalog, _, _⟩ := Dataset.embed_eq_ok embedded
  rw [Query.compile_of_local portable.isLocal stores.catalog .document (.relational .upperCase),
    compiled] at documentCompiled
  obtain rfl := Except.ok.inj documentCompiled
  obtain ⟨source, isSource, planned⟩ := portable.of_compile bounded compiled
  rw [sameCatalog] at isSource
  obtain ⟨table, fields, described⟩ := Dataset.exists_describes isSource
  obtain ⟨columns, records, shared, _⟩ := dataset.exists_shared checked regular embedded described
  have knows := described.knows (.relational .upperCase)
  rw [← sameCatalog] at knows
  obtain ⟨portablePlan, asked⟩ := planned _ knows
  rw [CompileContext.Asked, isRows] at asked
  obtain ⟨areFields, ungrouped⟩ := asked
  obtain ⟨asked, isAsked, areKnown⟩ := Outcome.exists_eq_map areFields
  obtain ⟨statement, answer, selected, answered, rows⟩ :=
    shared.answer_rows portablePlan areKnown isAsked ungrouped
  obtain ⟨pipeline, documents, piped, aggregated, keys, documentRows⟩ :=
    shared.aggregate_rows portablePlan areKnown isAsked
  refine ⟨statement, answer, pipeline, _, documents, selected, answered, piped, aggregated, keys,
    ?_⟩
  have noAggregate := aggregate?_of_fields isAsked
  rw [rowsetOfDocuments, rowsOfDocuments_of_none noAggregate, documentRows, rows, List.map_map,
    List.map_map]
  exact List.map_congr_left fun record member =>
    (shared.toJson_rowOfDocument areKnown (mem_of_mem_answeredRecords member)).symm

/-- Products, one of them without a price. -/
def products : Dataset :=
  { databaseId := 1
    tables :=
      [{ name := "products"
         description := none
         fields :=
          [⟨"id", .integer, some .id, none, none⟩, ⟨"price", .integer, none, none, none⟩]
         rows := [[.whole 1, .whole 5], [.whole 2, .null], [.whole 3, .whole 2]] }] }

def cheapProducts : Query :=
  { sourceTable := 1
    filter := some (.compare .less (.direct 2) (.whole 4))
    aggregation := .rows
    breakout := []
    orderBy := []
    fields := [.direct 1, .direct 2]
    limit := some 10
    page := none }

theorem products_regular : products.Regular := by
  refine ⟨by decide, fun table isTable => ?_⟩
  obtain rfl := List.mem_singleton.mp isTable
  refine ⟨fun field isField => ?_, by decide, by decide, fun row isRow entry isEntry => ?_⟩
  · simp only [List.mem_cons, List.not_mem_nil, or_false] at isField
    rcases isField with rfl | rfl
    · exact ⟨⟨by decide, by decide⟩, by decide, by decide, fun _ => .inl rfl⟩
    · exact ⟨⟨by decide, by decide⟩, by decide, by decide, nofun⟩
  · have isField := (List.of_mem_zip isEntry).1
    simp only [List.mem_cons, List.not_mem_nil, or_false] at isField
    rcases isField with same | same <;> simp [DatasetField.PlainValue, same]

theorem cheapProducts_portable : cheapProducts.Portable products.catalog where
  filter filter asked := by
    obtain rfl := Option.some.inj asked
    refine .compare fun field found => ?_
    obtain rfl := Except.ok.inj found
    exact .integer (.inl rfl) (by decide)
  source := nofun
  breakout ref member := absurd member List.not_mem_nil
  orderBy key member := absurd member List.not_mem_nil
  fields ref member := by
    simp only [cheapProducts, List.mem_cons, List.not_mem_nil, or_false] at member
    rcases member with rfl | rfl
    · exact .direct 1
    · exact .direct 2
  limit count isLimit := by
    obtain rfl := Option.some.inj isLimit
    decide
  items := nofun

theorem cheapProducts_answered_alike :
    ∃ stores plan, products.embed = .ok stores ∧
      cheapProducts.compile stores.catalog (.relational .upperCase) 1 none = .ok plan ∧
      stores.AnswerAlike plan plan := by
  obtain ⟨stores, embedded⟩ : ∃ stores, products.embed = .ok stores := ⟨_, rfl⟩
  obtain ⟨sameCatalog, _, _⟩ := Dataset.embed_eq_ok embedded
  obtain ⟨plan, compiled⟩ : ∃ plan,
      cheapProducts.compile products.catalog (.relational .upperCase) 1 none = .ok plan := ⟨_, rfl⟩
  have documentCompiled :
      cheapProducts.compile products.catalog .document 1 none = .ok plan := compiled
  have unbounded : ∀ count, (none : Option Nat) = some count → count < 2 ^ 64 := nofun
  rw [← sameCatalog] at compiled documentCompiled
  exact ⟨stores, plan, embedded, compiled,
    rows_answered_alike rfl products_regular embedded (sameCatalog ▸ cheapProducts_portable) rfl
      unbounded compiled documentCompiled⟩

end CrossQuery
