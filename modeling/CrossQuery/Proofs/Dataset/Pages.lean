import CrossQuery.Proofs.Collection.Pages
import CrossQuery.Proofs.Dataset.Contiguous
import CrossQuery.Proofs.Relational.Pages
import Mathlib

/-!
# Pages of tables

Pages of a sorted query are contiguous, though each of them is answered by another store that holds
the rows of the table in another order: put together they are the first rows of the whole answer.
-/

set_option autoImplicit false

namespace CrossQuery

open Collection

/-- The fields that a query orders by hold nothing or values of one kind each. -/
def Query.OrdersKinds (query : Query) (fields : List Field) (values : Field → List Cell) : Prop :=
  ∀ field ∈ fields, .direct field.id ∈ query.orderBy.map OrderKey.field →
    ∃ kind : Kind, ∀ cell ∈ values field, kind.Holds cell

section Orders

variable {dataset : Dataset} {source : Table} {table : DatasetTable} {fields : List Field}
  {query : Query} {plan : Plan} {key : Field}

/-- The fields of a plan on a table of a dataset are those of the table. -/
theorem Plan.Sorts.own_mem (sorts : plan.Sorts dataset.catalog source key query)
    (described : dataset.Describes source table fields) :
    ∀ field ∈ plan.fields, ∃ own ∈ fields, field = .direct own source := by
  intro field member
  obtain ⟨own, isOwn, found, isHere⟩ := sorts.own field member
  exact ⟨own, described.complete own.id own found isHere, isOwn⟩

/-- A plan sorts by fields of one kind each, if its query does and the primary key has integers. -/
theorem Plan.Sorts.kind_of_order (sorts : plan.Sorts dataset.catalog source key query)
    (described : dataset.Describes source table fields) (isField : key ∈ fields)
    {values : Field → List Cell} (kinds : query.OrdersKinds fields values)
    (integers : ∀ cell ∈ values key, Kind.integer.Holds cell) :
    ∀ order ∈ plan.orderBy, ∃ own ∈ fields, order.field = .direct own source ∧
      ∃ kind : Kind, ∀ cell ∈ values own, kind.Holds cell := by
  intro order member
  obtain ⟨own, isOwn, isDirect⟩ := sorts.own_mem described order.field
    (Plan.mem_fields_of_order member)
  rcases sorts.asked order member with isKey | isAsked
  · exact ⟨key, isField, isKey, .integer, integers⟩
  · rw [PlanOrder.ref, isDirect] at isAsked
    exact ⟨own, isOwn, isDirect, kinds own isOwn isAsked⟩

end Orders

section Rows

variable {dataset : Dataset} {source : Table} {table : DatasetTable} {fields : List Field}
  {query : Query} {plan : Plan} {key : Field} {rows : List (List Cell)}

/-- The columns of a table as statements on it look them up. -/
def DatasetTable.scope (table : DatasetTable) : Relational.Scope :=
  [⟨Naming.upperCase.spell table.name, table.columns .upperCase⟩]

theorem Dataset.Describes.resolve_own (described : dataset.Describes source table fields)
    (named : table.PlainlyNamed) {own : Field} (isOwn : own ∈ fields) :
    ∃ column,
      table.scope.resolveField .upperCase (.direct own source) = .ok (column, own.position) := by
  rw [DatasetTable.scope, ← described.name]
  exact described.resolve_column named.apart isOwn _

theorem Dataset.Describes.cellOf_own (described : dataset.Describes source table fields)
    (named : table.PlainlyNamed) {own : Field} (isOwn : own ∈ fields) (row : List Cell) :
    table.scope.cellOf .upperCase row (.direct own source) = cellAt row own := by
  obtain ⟨column, isColumn⟩ := described.resolve_own named isOwn
  rw [Relational.Scope.cellOf, isColumn, cellAt]

/-- Rows that are stored in another order have their cells in another order. -/
theorem DatasetTable.cells_perm {cells : List (List Cell)} {arranged : List (List Json)}
    (perm : arranged.Perm table.rows) (fits : table.rows.mapM table.cells = .ok rows)
    (converted : arranged.mapM table.cells = .ok cells) : cells.Perm rows := by
  have images := perm.map table.cells
  rw [Outcome.mapM_eq_ok_iff.mp fits, Outcome.mapM_eq_ok_iff.mp converted] at images
  have injective : Function.Injective (Except.ok : List Cell → Except DatasetError (List Cell)) :=
    fun _ _ same => Except.ok.inj same
  exact (List.map_perm_map_iff injective).mp images

/-- A database that answers a plan judges its filter on every row. -/
theorem StoreKind.truth_of_answers (sorts : plan.Sorts dataset.catalog source key query)
    (described : dataset.Describes source table fields)
    (fits : table.rows.mapM table.cells = .ok rows) {database : Relational.Database}
    {whole : List (List Cell)} (held : tables.Holds database table table.rows)
    (answered : tables.Answers database plan whole) :
    ∀ predicate, plan.filter = some predicate → ∀ row ∈ rows,
      ∃ truth, table.scope.truth (Relational.condition .upperCase predicate) row = .ok truth := by
  obtain ⟨statement, answer, written, answered, _⟩ := answered
  obtain ⟨cells, converted, isTable⟩ := held
  obtain rfl := Except.ok.inj (fits.symm.trans converted)
  rw [DatasetTable.scope]
  rw [← described.name] at isTable ⊢
  exact Relational.truth_of_answer sorts rfl isTable written answered

/-- A sorted plan lists rows in one order, in whatever order a database holds them. -/
theorem Plan.Sorts.lists_tables (sorts : plan.Sorts dataset.catalog source key query)
    (described : dataset.Describes source table fields) (named : table.PlainlyNamed)
    (fits : table.rows.mapM table.cells = .ok rows) (isField : key ∈ fields)
    (identified : Identifies (cellAt · key) rows)
    (kinds : query.OrdersKinds fields fun field => rows.map (cellAt · field))
    (judged : ∀ predicate, plan.filter = some predicate → ∀ row ∈ rows,
      ∃ truth, table.scope.truth (Relational.condition .upperCase predicate) row = .ok truth) :
    StoreKind.tables.Lists table plan := by
  have isScope : table.scope =
      [⟨Naming.upperCase.spell source.name, table.columns .upperCase⟩] := by
    rw [DatasetTable.scope, described.name]
  have resolved : ∀ field ∈ plan.fields,
      ∃ found, table.scope.resolveField .upperCase field = .ok found := by
    intro field member
    obtain ⟨own, isOwn, rfl⟩ := sorts.own_mem described field member
    obtain ⟨column, isColumn⟩ := described.resolve_own named isOwn
    exact ⟨_, isColumn⟩
  have ordersKinds : ∀ order ∈ plan.orderBy, ∃ kind : Kind, ∀ row ∈ rows,
      kind.Holds (table.scope.cellOf .upperCase row order.field) := by
    intro order member
    obtain ⟨own, isOwn, isDirect, kind, holds⟩ := sorts.kind_of_order described isField kinds
      (List.forall_mem_map.mpr identified.integers) order member
    refine ⟨kind, fun row isRow => ?_⟩
    rw [isDirect, described.cellOf_own named isOwn]
    exact holds _ (List.mem_map_of_mem isRow)
  have apart : ∀ left ∈ rows, ∀ right ∈ rows,
      (table.scope.cellOf .upperCase left (.direct key source)).content? =
        (table.scope.cellOf .upperCase right (.direct key source)).content? → left = right := by
    intro left isLeft right isRight same
    rw [described.cellOf_own named isField, described.cellOf_own named isField] at same
    exact identified.apart left isLeft right isRight same
  obtain ⟨listed, listing⟩ :=
    Relational.answer_arranged sorts isScope resolved judged ordersKinds apart
  refine ⟨listed, ?_⟩
  intro database arranged offset limit _ _ perm isHeld
  obtain ⟨cells, converted, isArranged⟩ := isHeld
  rw [← described.name] at isArranged
  exact listing database cells offset limit (DatasetTable.cells_perm perm fits converted) isArranged

end Rows

section Documents

variable {dataset : Dataset} {source : Table} {table : DatasetTable} {fields : List Field}
  {query : Query} {plan : Plan} {key : Field}

/-- A store of documents that answers a plan judges its filter on every document. -/
theorem StoreKind.passes_of_answers (sorts : plan.Sorts dataset.catalog source key query)
    (described : dataset.Describes source table fields) {store : Store} {whole : List (List Cell)}
    (held : documents.Holds store table table.rows)
    (answered : documents.Answers store plan whole) :
    ∀ predicate filter, plan.filter = some predicate → filterOf predicate = .ok filter →
      ∀ document ∈ table.rows.map table.document, ∃ kept, passes document filter = .ok kept := by
  obtain ⟨answer, answered, _⟩ := answered
  obtain ⟨pipeline, _, _, written, _, aggregated, _⟩ := Store.answerPlan_eq_ok_iff.mp answered
  have isStored : store.documents plan.source.name = table.rows.map table.document := by
    rw [sorts.reads, described.name]
    exact held
  rw [← isStored]
  exact passes_of_aggregate written aggregated

/-- A sorted plan lists documents in one order, in whatever order a store holds them. -/
theorem Plan.Sorts.lists_documents (sorts : plan.Sorts dataset.catalog source key query)
    (described : dataset.Describes source table fields) (named : table.PlainlyNamed)
    (isField : key ∈ fields) (isKey : key.isPrimaryKey = true)
    (identified : Identifies (valueAt · "_id") (table.rows.map table.document))
    (kinds : query.OrdersKinds fields fun field =>
      (table.rows.map table.document).map (valueAt · (Naming.documentKeys.spellField field)))
    (judged : ∀ predicate filter, plan.filter = some predicate → filterOf predicate = .ok filter →
      ∀ document ∈ table.rows.map table.document, ∃ kept, passes document filter = .ok kept) :
    StoreKind.documents.Lists table plan := by
  have keyIsId : keyName (.direct key source) = "_id" := by
    rw [keyName, Naming.spellField, if_pos ⟨rfl, isKey⟩]
  have plain : ∀ field ∈ plan.fields, PlainName (keyName field) := by
    intro field member
    obtain ⟨own, isOwn, rfl⟩ := sorts.own_mem described field member
    exact described.plainKey named.plain isOwn
  have integers : ∀ cell ∈ (table.rows.map table.document).map
      (valueAt · (Naming.documentKeys.spellField key)), Kind.integer.Holds cell := by
    rw [show Naming.documentKeys.spellField key = "_id" from keyIsId]
    exact List.forall_mem_map.mpr identified.integers
  have ordersKinds : ∀ order ∈ plan.orderBy, ∃ kind : Kind,
      ∀ document ∈ table.rows.map table.document,
        kind.Holds (valueAt document (keyName order.field)) := by
    intro order member
    obtain ⟨own, isOwn, isDirect, kind, holds⟩ :=
      sorts.kind_of_order described isField kinds integers order member
    refine ⟨kind, fun document isDocument => ?_⟩
    rw [isDirect]
    exact holds _ (List.mem_map_of_mem isDocument)
  have apart : ∀ left ∈ table.rows.map table.document, ∀ right ∈ table.rows.map table.document,
      (valueAt left (keyName (.direct key source))).content? =
        (valueAt right (keyName (.direct key source))).content? → left = right := by
    rw [keyIsId]
    exact identified.apart
  obtain ⟨listed, listing⟩ := aggregate_arranged sorts plain judged ordersKinds apart
  refine ⟨listed, ?_⟩
  intro store arranged offset limit offsetFits limitFits perm isHeld
  have isArranged : store.documents source.name = arranged.map table.document := by
    rw [described.name]
    exact isHeld
  obtain ⟨pipeline, keys, documents, written, isKeys, aggregated, rows⟩ :=
    listing store _ offset limit offsetFits limitFits (perm.map table.document) isArranged
  exact ⟨_, Store.answerPlan_eq_ok_iff.mpr
    ⟨pipeline, keys, documents, written, isKeys, aggregated, rfl⟩, rows _⟩

end Documents

/-- Pages of a query for rows of one table are contiguous, in whatever order the rows are stored
for each of them. The query orders by fields of one kind each, and the values of the primary key
are there and differ. -/
theorem pages_contiguous {dataset : Dataset} {source : Table} {table : DatasetTable}
    {fields : List Field} {query : Query} {items count : Nat}
    (described : dataset.Describes source table fields) (named : table.PlainlyNamed)
    (keyed : table.Keyed) {rows : List (List Cell)} (fits : table.rows.mapM table.cells = .ok rows)
    (isSource : dataset.catalog.table query.sourceTable = .ok source) (isLocal : query.IsLocal)
    (isRows : query.aggregation = .rows) (ordered : query.orderBy ≠ []) (someItems : 0 < items)
    (narrow : items ≤ offsetBound) (noOverflow : (count - 1) * items ≤ offsetBound)
    (databaseId : Int) :
    (query.OrdersKinds fields (fun field => rows.map (cellAt · field)) →
      StoreKind.tables.Contiguous dataset.catalog databaseId table query items count) ∧
    (query.OrdersKinds fields (fun field =>
        (table.rows.map table.document).map (valueAt · (Naming.documentKeys.spellField field))) →
      StoreKind.documents.Contiguous dataset.catalog databaseId table query items count) := by
  obtain ⟨key, isField, isPrimary, isKey⟩ := described.exists_primaryKey keyed.hasKey
  constructor
  · intro kinds
    refine StoreKind.contiguous_of_lists StoreKind.determined_tables isLocal isRows ordered isSource
      isPrimary someItems narrow noOverflow ?_
    intro plan original whole sorts held answered
    have identified := described.identifies_rows keyed fits isField isKey
    exact sorts.lists_tables described named fits isField identified kinds
      (StoreKind.truth_of_answers sorts described fits held answered)
  · intro kinds
    refine StoreKind.contiguous_of_lists StoreKind.determined_documents isLocal isRows ordered
      isSource isPrimary someItems narrow noOverflow ?_
    intro plan original whole sorts held answered
    have identified := keyed.identifies_documents named fits
    exact sorts.lists_documents described named isField isKey identified kinds
      (StoreKind.passes_of_answers sorts described held answered)

/-- Articles, of which two share a name and one has none. -/
def articles : DatasetTable where
  name := "articles"
  description := none
  fields := [⟨"id", .integer, some .id, none, none⟩, ⟨"name", .text, none, none, none⟩]
  rows := [[.whole 2, .string "pen"], [.whole 4, .null], [.whole 1, .string "ink"],
    [.whole 3, .string "pen"]]

def stockOf (rows : List (List Json)) : Dataset :=
  ⟨1, [{ articles with rows := rows }]⟩

/-- Articles by their names, the last name first. -/
def articlesByName : Query where
  sourceTable := 1
  filter := none
  aggregation := .rows
  breakout := []
  orderBy := [⟨.direct 2, .descending⟩]
  fields := []
  limit := none
  page := none

theorem articles_named : articles.PlainlyNamed := by
  refine ⟨by decide, fun field isField => ?_, by decide⟩
  simp only [articles, List.mem_cons, List.not_mem_nil, or_false] at isField
  rcases isField with rfl | rfl <;> exact ⟨by decide, by decide⟩

theorem articles_keyed : articles.Keyed := by
  have isFirst : ∀ (place : Nat) (field : DatasetField), articles.fields[place]? = some field →
      field.isPrimaryKey = true → place = 0 := by
    intro place field isField isKey
    cases place with
    | zero => rfl
    | succ later =>
        cases later with
        | zero =>
            cases isField
            cases isKey
        | succ _ => cases isField
  refine ⟨⟨_, List.mem_cons_self, rfl⟩, ?_, ?_⟩
  · intro place field isField isKey row isRow
    obtain rfl := isFirst place field isField isKey
    simp only [articles, List.mem_cons, List.not_mem_nil, or_false] at isRow
    rcases isRow with rfl | rfl | rfl | rfl <;> simp
  · intro place field isField isKey
    obtain rfl := isFirst place field isField isKey
    simp [articles]

theorem articlesByName_local : articlesByName.IsLocal := by
  constructor
  · intro filter asked
    cases asked
  · intro ref asked
    cases asked
  · exact fun ref member => absurd member List.not_mem_nil
  · intro key member
    obtain rfl := List.mem_singleton.mp member
    exact .direct 2
  · exact fun ref member => absurd member List.not_mem_nil

theorem stockOf_held {rows : List (List Json)} {stores : EmbeddedStores}
    (embedded : (stockOf rows).embed = .ok stores) :
    StoreKind.tables.Holds stores.database articles rows ∧
      StoreKind.documents.Holds stores.documents articles rows := by
  have distinct : ((stockOf rows).tables.map fun table =>
      Naming.upperCase.spell table.name).Nodup := List.nodup_singleton _
  exact StoreKind.holds_of_embed distinct embedded List.mem_cons_self

/-- The rows of articles as a database holds them. -/
def articleCells : List (List Cell) :=
  [[.int64 2, .text "pen"], [.int64 4, .null], [.int64 1, .text "ink"], [.int64 3, .text "pen"]]

def articleName : Field :=
  ⟨2, 1, "name", .text, none, none, none, 1⟩

theorem articlesByName_kinds {source : Table} {fields : List Field}
    (described : (stockOf articles.rows).Describes source articles fields)
    (values : Field → List Cell) (texts : ∀ cell ∈ values articleName, Kind.text.Holds cell) :
    articlesByName.OrdersKinds fields values := by
  intro field isField asked
  have sameId : field.id = 2 := by simpa [articlesByName] using asked
  have found := described.found field isField
  rw [sameId] at found
  obtain rfl : articleName = field := Except.ok.inj found
  exact ⟨.text, texts⟩

theorem articleCells_texts : ∀ cell ∈ articleCells.map (cellAt · articleName),
    Kind.text.Holds cell := by
  simp only [articleCells, List.map_cons, List.map_nil, List.forall_mem_cons]
  exact ⟨.content rfl rfl, .null, .content rfl rfl, .content rfl rfl, by simp⟩

theorem articleDocuments_texts : ∀ cell ∈ (articles.rows.map articles.document).map
    (valueAt · (Naming.documentKeys.spellField articleName)), Kind.text.Holds cell := by
  have values : ∀ document, valueAt document (Naming.documentKeys.spellField articleName) =
      cellOf (Json.lookup? "name" document) :=
    fun document => congrArg cellOf (atPath?_of_plain ⟨by decide, by decide⟩ document)
  simp only [values, articles, List.map_cons, List.map_nil, List.forall_mem_cons]
  exact ⟨.content rfl rfl, .null, .content rfl rfl, .content rfl rfl, by simp⟩

/-- The query of articles compiles to a plan without a filter. -/
theorem articlesByName_compiles (capabilities : Capabilities)
    (compiles : ((articlesByName.compile (stockOf articles.rows).catalog capabilities 1 none).map
      Plan.filter).toOption = some none) :
    ∃ plan, articlesByName.compile (stockOf articles.rows).catalog capabilities 1 none = .ok plan ∧
      plan.filter = none := by
  cases compiled : articlesByName.compile (stockOf articles.rows).catalog capabilities 1 none with
  | error failure =>
      rw [compiled] at compiles
      cases compiles
  | ok plan =>
      rw [compiled] at compiles
      exact ⟨plan, rfl, Option.some.inj compiles⟩

/-- The first pages of articles from two stores are the front of the answer of one of them. -/
def StoreKind.PagesOfArticles {σ : Type} (kind : StoreKind σ) (original reversed : σ) : Prop :=
  ∃ whole first second,
    kind.Responds (stockOf articles.rows).catalog 1 original articlesByName none whole ∧
      kind.Responds (stockOf articles.rows).catalog 1 reversed (articlesByName.atPage 2 1) (some 1)
        first ∧
      kind.Responds (stockOf articles.rows).catalog 1 original (articlesByName.atPage 2 2) (some 1)
        second ∧
      first ++ second = whole.take 4

theorem StoreKind.Contiguous.pagesOfArticles {σ : Type} {kind : StoreKind σ}
    (contiguous : kind.Contiguous (stockOf articles.rows).catalog 1 articles articlesByName 2 2)
    {original reversed : σ} (held : kind.Holds original articles articles.rows)
    (heldReversed : kind.Holds reversed articles articles.rows.reverse)
    (responds : ∃ whole,
      kind.Responds (stockOf articles.rows).catalog 1 original articlesByName none whole) :
    kind.PagesOfArticles original reversed := by
  obtain ⟨whole, responds⟩ := responds
  have each : ∀ number < 2,
      (if number = 0 then articles.rows.reverse else articles.rows).Perm articles.rows ∧
        kind.Holds (if number = 0 then reversed else original) articles
          (if number = 0 then articles.rows.reverse else articles.rows) := by
    intro number _
    by_cases isFirst : number = 0
    · rw [if_pos isFirst, if_pos isFirst]
      exact ⟨List.reverse_perm _, heldReversed⟩
    · rw [if_neg isFirst, if_neg isFirst]
      exact ⟨List.Perm.refl _, held⟩
  obtain ⟨pages, answered, together⟩ := contiguous original whole held responds _ _ (some 1) each
  refine ⟨whole, pages 0, pages 1, responds, answered 0 (by decide), answered 1 (by decide), ?_⟩
  simpa [List.range_succ] using together

theorem articlesByName_contiguous :
    ∃ stores reversed, (stockOf articles.rows).embed = .ok stores ∧
      (stockOf articles.rows.reverse).embed = .ok reversed ∧
      StoreKind.tables.PagesOfArticles stores.database reversed.database ∧
      StoreKind.documents.PagesOfArticles stores.documents reversed.documents := by
  obtain ⟨stores, embedded⟩ : ∃ stores, (stockOf articles.rows).embed = .ok stores := ⟨_, rfl⟩
  obtain ⟨reversed, embeddedReversed⟩ :
      ∃ reversed, (stockOf articles.rows.reverse).embed = .ok reversed := ⟨_, rfl⟩
  obtain ⟨source, isSource⟩ : ∃ source,
      (stockOf articles.rows).catalog.table articlesByName.sourceTable = .ok source := ⟨_, rfl⟩
  obtain ⟨table, fields, described⟩ := Dataset.exists_describes isSource
  obtain rfl : table = articles := List.mem_singleton.mp described.isTable
  have fits : articles.rows.mapM articles.cells = .ok articleCells := rfl
  obtain ⟨onTables, onDocuments⟩ := pages_contiguous described articles_named articles_keyed fits
    isSource articlesByName_local rfl (by decide) (show 0 < 2 by decide) (by decide)
    (show (2 - 1) * 2 ≤ offsetBound by decide) 1
  obtain ⟨heldRows, heldDocuments⟩ := stockOf_held embedded
  obtain ⟨reversedRows, reversedDocuments⟩ := stockOf_held embeddedReversed
  obtain ⟨key, isField, isPrimary, isKey⟩ := described.exists_primaryKey articles_keyed.hasKey
  have rowKinds := articlesByName_kinds described (fun field => articleCells.map (cellAt · field))
    articleCells_texts
  have documentKinds := articlesByName_kinds described (fun field =>
    (articles.rows.map articles.document).map (valueAt · (Naming.documentKeys.spellField field)))
    articleDocuments_texts
  refine ⟨stores, reversed, embedded, embeddedReversed, ?_, ?_⟩
  · refine (onTables rowKinds).pagesOfArticles heldRows reversedRows ?_
    obtain ⟨plan, compiled, noFilter⟩ := articlesByName_compiles (.relational .upperCase) (by cbv)
    have sorts := articlesByName_local.sorts rfl (by decide) (Dataset.listsOwn_catalog _) isSource
      isPrimary compiled
    have lists := sorts.lists_tables described articles_named fits isField
      (described.identifies_rows articles_keyed fits isField isKey) rowKinds
      (by rw [noFilter]; simp)
    exact lists.responds sorts.unlimited compiled heldRows
  · refine (onDocuments documentKinds).pagesOfArticles heldDocuments reversedDocuments ?_
    obtain ⟨plan, compiled, noFilter⟩ := articlesByName_compiles .document (by cbv)
    have sorts := articlesByName_local.sorts rfl (by decide) (Dataset.listsOwn_catalog _) isSource
      isPrimary compiled
    have lists := sorts.lists_documents described articles_named isField isKey
      (articles_keyed.identifies_documents articles_named fits) documentKinds
      (by rw [noFilter]; simp)
    exact lists.responds sorts.unlimited compiled heldDocuments

end CrossQuery
