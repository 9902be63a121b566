import CrossQuery.Proofs.Agreement.Totals
import CrossQuery.Proofs.Collection.Matching
import CrossQuery.Proofs.Dataset.Contents
import CrossQuery.Proofs.Dataset.Keyed
import CrossQuery.Proofs.Plan.Meaning

/-!
# Searching texts in both stores

A database searches the text that a cell shows, whatever the cell is, and a store of documents
searches only values that are texts. Both find the same in texts, days and moments. A number, a
truth value, an array or an object is found by a database alone, wherever its text is as searched
for.
-/

set_option autoImplicit false

namespace CrossQuery

open Collection

/-- A search in the text of a field. -/
inductive TextTest where
  | startsWith (text : String)
  | contains (text : String)

namespace TextTest

/-- Whether a text is as searched for. -/
def finds : TextTest → List Char → Bool
  | .startsWith text => text.toList.isPrefixOf
  | .contains text => Text.occurs text.toList

/-- The search as a filter. -/
def filter (ref : FieldRef) : TextTest → Filter
  | .startsWith text => .startsWith ref text
  | .contains text => .contains ref text

/-- The search as a predicate. -/
def predicate (field : PlanField) : TextTest → Predicate
  | .startsWith text => .startsWith field text
  | .contains text => .contains field text

variable (test : TextTest) {field : PlanField}

theorem fields_predicate : (test.predicate field).fields = [field] := by
  cases test <;> rfl

theorem values_predicate : (test.predicate field).values = [] := by
  cases test <;> rfl

/-- A search in a field that is resolved is lowered to the same search. -/
theorem lowerFilter_eq {context : CompileContext} {ref : FieldRef} {joins after : List PlanJoin}
    (resolved : context.resolve "filter" ref joins = .ok (field, after)) :
    context.lowerFilter (test.filter ref) joins = .ok (some (test.predicate field), after) := by
  cases test with
  | startsWith text =>
      rw [filter, CompileContext.lowerFilter]
      change (context.resolve "filter" ref joins >>= _) = _
      rw [resolved]
      rfl
  | contains text =>
      rw [filter, CompileContext.lowerFilter]
      change (context.resolve "filter" ref joins >>= _) = _
      rw [resolved]
      rfl

/-- A database searches the text that the cell of the field shows. -/
theorem truth_condition {naming : Naming} {scope : Relational.Scope} {row : List Cell} {cell : Cell}
    (reads : scope.evaluate row (Relational.columnOfField naming field) = .ok cell) :
    scope.truth (Relational.condition naming (test.predicate field)) row =
      .ok (cell.textTruth test.finds) := by
  have judged : (test.predicate field).truth (fun _ => cell) = cell.textTruth test.finds := by
    cases test <;> rfl
  rw [← judged]
  refine Relational.truth_condition ?_ ?_ ?_
  · cases test with
    | startsWith text => exact .startsWith
    | contains text => exact .contains
  · rw [values_predicate]
    exact List.forall_mem_nil _
  · rw [fields_predicate]
    exact List.forall_mem_singleton.mpr reads

/-- A store of documents searches what a document holds for the field, if that is a text. -/
theorem passes_filterOf (field : PlanField) (direct : field.isJoined = false)
    (plain : PlainName (keyName field)) (document : Document) :
    ∃ filter, filterOf (test.predicate field) = .ok filter ∧
      passes document filter =
        .ok (((Json.lookup? (keyName field) document).bind Json.text?).any fun text =>
          test.finds text.toList) := by
  have key : keyOfField field = .ok (keyName field) := by
    simp [keyOfField, keyName, direct]
  have searched (expression : String) {pattern : Pattern}
      (isRead : Pattern.parse? expression.toList = some pattern)
      (agrees : ∀ text, pattern.occursIn text = test.finds text) :
      passes document (single (keyName field) (single "$regex" (.string expression))) =
        .ok (((Json.lookup? (keyName field) document).bind Json.text?).any fun text =>
          test.finds text.toList) := by
    rw [passes_single plain, meets_single rfl]
    simp only [satisfies, matchesPattern, isRead, agrees]
    cases (Json.lookup? (keyName field) document).bind Json.text? <;> rfl
  cases test with
  | startsWith text =>
      refine ⟨_, by rw [predicate, filterOf, key]; rfl, ?_⟩
      exact searched _ (parse?_startsWith text) (Pattern.occursIn_start_literal text.toList)
  | contains text =>
      refine ⟨_, by rw [predicate, filterOf, key]; rfl, ?_⟩
      exact searched _ (parse?_contains text) (Pattern.occursIn_literal text.toList)

end TextTest

namespace DatasetField

variable {field : DatasetField} {value : Json} {cell : Cell}

/-- The cell of a text shows the text as it is spelled in documents. -/
theorem textOf_of_string {text : String} (held : field.cell (.string text) = .ok cell) :
    Relational.textOf cell = field.baseType.canonicalText text := by
  have held : field.presentCell (.string text) = .ok cell := held
  cases type : field.storageType with
  | varchar =>
      obtain ⟨notDate, notTimestamp⟩ := not_temporal_of_varchar type
      have unchanged : field.canonical (.string text) = .string text :=
        canonical_of_type notDate notTimestamp
      simp only [presentCell, type] at held
      cases held
      exact (Json.string.inj unchanged).symm
  | date =>
      simp only [presentCell, type, dateCell] at held
      split at held
      · next date isDate =>
          cases held
          simp [BaseType.canonicalText, baseType_of_date type, isDate, Relational.textOf,
            Cell.text?, Cell.display]
      · cases held
  | timestamp =>
      simp only [presentCell, type, timestampCell] at held
      split at held
      · next moment isMoment =>
          cases held
          simp [BaseType.canonicalText, baseType_of_timestamp type, isMoment, Relational.textOf,
            Cell.text?, Cell.display]
      · cases held
  | bigint | integer | double | decimal | boolean =>
      simp only [presentCell, type, readNumber?] at held
      cases held

/-- A document holds a text in the place of a text, and of nothing else. -/
theorem text?_documentEntry (held : field.cell value = .ok cell) :
    (field.documentEntry value).bind Json.text? =
      value.text?.map fun _ => Relational.textOf cell := by
  have canonical := documentEntry_eq_canonical held
  have shown : (field.documentEntry value).bind Json.text? = (field.canonical value).text? := by
    rw [← canonical]
    cases field.documentEntry value <;> rfl
  rw [shown]
  cases value with
  | string text => exact congrArg some (textOf_of_string held).symm
  | _ => rfl

theorem isNull_of_presentCell (held : field.presentCell value = .ok cell)
    (present : value.isNull = false) : cell.isNull = false := by
  unfold presentCell at held
  split at held
  · split at held <;> cases held
    rfl
  · split at held <;> cases held
    rfl
  · split at held <;> cases held
    rfl
  · split at held <;> cases held
    rfl
  · cases held
    rfl
  · unfold dateCell at held
    split at held <;> cases held
    rfl
  · unfold timestampCell at held
    split at held <;> cases held
    rfl
  · cases held
    rw [isNull_ofJson, present]
  · cases held

/-- Only null becomes a cell that is null. -/
theorem isNull_of_cell (held : field.cell value = .ok cell) : cell.isNull = value.isNull := by
  unfold DatasetField.cell at held
  split at held
  · next isNull =>
      cases held
      exact isNull.symm
  · next present =>
      have present := Bool.eq_false_iff.mpr present
      rw [present]
      exact isNull_of_presentCell held present

/-- What a store finds of a value, and that it finds nothing else in one that is not a text. -/
theorem textTruth_of_cell (held : field.cell value = .ok cell) (test : TextTest) :
    (cell.textTruth test.finds = .yes ↔
        value ≠ .null ∧ test.finds (Relational.textOf cell).toList = true) ∧
      (((field.documentEntry value).bind Json.text?).any (fun text => test.finds text.toList) =
          true ↔
        (∃ text, value = .string text) ∧ test.finds (Relational.textOf cell).toList = true) := by
  constructor
  · have isNull := isNull_of_cell held
    unfold Cell.textTruth
    rw [isNull]
    cases value with
    | null => simp [Json.isNull]
    | _ => simp [Json.isNull, Truth.ofBool]
  · rw [text?_documentEntry held]
    cases value with
    | string text => simp [Json.text?]
    | _ => simp [Json.text?]

end DatasetField

namespace EmbeddedStores

/-- The truth of a predicate on the row at a place of a table, as the database judges it. -/
def rowTruth? (stores : EmbeddedStores) (source : Table) (predicate : Predicate) (place : Nat) :
    Option Truth :=
  match stores.database.table (Naming.upperCase.spell source.name) with
  | .error _ => none
  | .ok held =>
    held.rows[place]?.bind fun row =>
      ((scopeOf source held.columns).truth (Relational.condition .upperCase predicate) row).toOption

/-- Whether the document at a place of a collection passes the filter of a predicate. -/
def documentKept? (stores : EmbeddedStores) (source : Table) (predicate : Predicate)
    (place : Nat) : Option Bool :=
  match filterOf predicate with
  | .error _ => none
  | .ok filter =>
    (stores.documents.documents source.name)[place]?.bind fun document =>
      (passes document filter).toOption

end EmbeddedStores

section Stores

variable {dataset : Dataset} {stores : EmbeddedStores} {source : Table} {table : DatasetTable}
  {fields : List Field}

/-- A field of the source is resolved without a join. -/
theorem Dataset.Describes.resolve_eq (described : dataset.Describes source table fields)
    (capabilities : Capabilities) {own : Field} (isOwn : own ∈ fields) (clause : String)
    (joins : List PlanJoin) :
    (CompileContext.mk dataset.catalog capabilities source).resolve clause (.direct own.id) joins =
      .ok (.direct own source, joins) := by
  simp only [CompileContext.resolve, described.found own isOwn, CompileContext.look, pure_bind,
    if_pos (described.tableId own isOwn)]
  rfl

theorem DatasetTable.PlainlyNamed.documentKeys (named : table.PlainlyNamed)
    (oneKey : (table.fields.filter DatasetField.isPrimaryKey).length ≤ 1) :
    (table.fields.map DatasetField.documentKey).Nodup := by
  have names := named.apart
  rw [show (fun field : DatasetField => Naming.upperCase.spell field.name) =
    Naming.upperCase.spell ∘ DatasetField.name from rfl, ← List.map_map] at names
  exact DatasetTable.nodup_documentKeys
    (List.Pairwise.of_map _ (fun _ _ differ same => differ (congrArg _ same)) names) named.notId
    oneKey

/-- A row that a table is filled with has the cell of each field in the column of the field. -/
theorem rowTruth?_of_cells (described : dataset.Describes source table fields)
    (named : table.PlainlyNamed) {rows : List (List Cell)}
    (isTable : stores.database.table (Naming.upperCase.spell source.name) =
      .ok ⟨table.columns .upperCase, rows⟩)
    {own : Field} (isOwn : own ∈ fields) {place : Nat} {cells : List Cell}
    (isCells : rows[place]? = some cells) (test : TextTest) :
    stores.rowTruth? source (test.predicate (.direct own source)) place =
      some ((cellAt cells own).textTruth test.finds) := by
  obtain ⟨column, resolved⟩ := described.resolve_column named.apart isOwn
    (Naming.upperCase.spell source.name)
  have reads := evaluate_of_resolved resolved cells
  simp only [EmbeddedStores.rowTruth?, isTable, isCells, Option.bind_some,
    test.truth_condition reads]
  rfl

/-- A document that was made of a row has the entry of each field under the key of the field. -/
theorem documentKept?_of_row (described : dataset.Describes source table fields)
    (named : table.PlainlyNamed)
    (oneKey : (table.fields.filter DatasetField.isPrimaryKey).length ≤ 1)
    (documents : stores.documents.documents source.name = table.rows.map table.document)
    {own : Field} (isOwn : own ∈ fields) {field : DatasetField}
    (isField : table.fields[own.position]? = some field) (sameTraits : field.traits = own.traits)
    {place : Nat} {row : List Json} (isRow : table.rows[place]? = some row)
    (width : row.length = table.fields.length) {value : Json}
    (isEntry : (field, value) ∈ table.fields.zip row) (test : TextTest) :
    stores.documentKept? source (test.predicate (.direct own source)) place =
      some (((field.documentEntry value).bind Json.text?).any fun text =>
        test.finds text.toList) := by
  have isKey : keyName (.direct own source) = field.documentKey := by
    rw [← Dataset.keyOfTraits_original, sameTraits, Dataset.keyOfTraits_field]
    rfl
  have only := filter_key_of_nodup (named.documentKeys oneKey) (List.mem_of_getElem? isField)
  have stored := DatasetTable.lookup?_document width isEntry only
  obtain ⟨filter, compiled, passed⟩ := test.passes_filterOf (.direct own source) rfl
    (described.plainKey named.plain isOwn) (table.document row)
  simp only [EmbeddedStores.documentKept?, compiled, documents, List.getElem?_map, isRow,
    Option.map_some, Option.bind_some, passed, isKey, stored]
  rfl

/-- A search in a field of a row finds the record in both stores or in none if the value is a text
or null, or if what the cell shows is not as searched for. Any other value is found by the database
alone. -/
theorem text_test_agrees_iff (checked : dataset.check = .ok ())
    (embedded : dataset.embed = .ok stores)
    (spelled : (dataset.tables.map fun table => Naming.upperCase.spell table.name).Nodup)
    (described : dataset.Describes source table fields) (named : table.PlainlyNamed)
    (oneKey : (table.fields.filter DatasetField.isPrimaryKey).length ≤ 1)
    {own : Field} (isOwn : own ∈ fields) {place : Nat} {row : List Json}
    (isRow : table.rows[place]? = some row) (test : TextTest) :
    (∀ capabilities joins, (CompileContext.mk stores.catalog capabilities source).lowerFilter
        (test.filter (.direct own.id)) joins =
          .ok (some (test.predicate (.direct own source)), joins)) ∧
      ∃ field value cell selected kept, table.fields[own.position]? = some field ∧
        row[own.position]? = some value ∧ field.cell value = .ok cell ∧
        stores.rowTruth? source (test.predicate (.direct own source)) place = some selected ∧
        stores.documentKept? source (test.predicate (.direct own source)) place = some kept ∧
        (selected = .yes ↔
          value ≠ .null ∧ test.finds (Relational.textOf cell).toList = true) ∧
        (kept = true ↔
          (∃ text, value = .string text) ∧ test.finds (Relational.textOf cell).toList = true) ∧
        ((selected = .yes ↔ kept = true) ↔
          (value = .null ∨ ∃ text, value = .string text) ∨
            test.finds (Relational.textOf cell).toList = false) := by
  obtain ⟨sameCatalog, built, sameDocuments⟩ := Dataset.embed_eq_ok embedded
  have widths := Dataset.width_of_check checked described.isTable
  obtain ⟨rows, converted, isTable⟩ := Dataset.table_database spelled built described.isTable
  have documents := Dataset.documents_eq (Dataset.nodup_tableNames spelled) described.isTable
  rw [← described.name] at isTable documents
  rw [← sameDocuments] at documents
  obtain ⟨field, isField, sameTraits⟩ := described.atPosition isOwn
  have width := widths row (List.mem_of_getElem? isRow)
  have eachRow := congrArg (·[place]?) (Outcome.mapM_eq_ok_iff.mp converted)
  simp only [List.getElem?_map, isRow, Option.map_some] at eachRow
  obtain ⟨cells, isCells, held⟩ := Option.map_eq_some_iff.mp eachRow.symm
  obtain ⟨value, isValue, isEntry, isCell⟩ :=
    DatasetTable.exists_value held.symm isField (DatasetTable.lt_length_row width isField)
  have isCell : field.cell value = .ok (cellAt cells own) := isCell
  refine ⟨fun capabilities joins => test.lowerFilter_eq ?_, ?_⟩
  · rw [sameCatalog]
    exact described.resolve_eq capabilities isOwn "filter" joins
  · have selected := rowTruth?_of_cells described named isTable isOwn isCells test
    have kept := documentKept?_of_row described named oneKey documents isOwn isField sameTraits
      isRow width isEntry test
    obtain ⟨whenSelected, whenKept⟩ := DatasetField.textTruth_of_cell isCell test
    refine ⟨field, value, cellAt cells own, _, _, isField, isValue, isCell, selected, kept,
      whenSelected, whenKept, ?_⟩
    rw [whenSelected, whenKept]
    cases value with
    | null => simp
    | string text => simp
    | _ => simp

end Stores

/-- Halls with a number and the day of their opening. -/
def halls : DatasetTable where
  name := "halls"
  description := none
  fields := [⟨"id", .integer, some .id, none, none⟩, ⟨"number", .integer, none, none, none⟩,
    ⟨"opened", .date, none, none, none⟩]
  rows := [[.whole 1, .whole 15, .string "2014-4-7"]]

def hallData : Dataset where
  databaseId := 1
  tables := [halls]

/-- The halls, and two of their fields, as the catalog knows them. -/
def hallTable : Table := ⟨1, 1, "halls", none⟩

def hallNumber : Field := ⟨2, 1, "number", .integer, none, none, none, 1⟩

def hallOpened : Field := ⟨3, 1, "opened", .date, none, none, none, 2⟩

theorem halls_named : halls.PlainlyNamed where
  apart := by decide
  plain := by
    simp only [halls, List.forall_mem_cons]
    exact ⟨⟨by decide, by decide⟩, ⟨by decide, by decide⟩, ⟨by decide, by decide⟩,
      List.forall_mem_nil _⟩
  notId := by decide

/-- A day is found by its one spelling, which is not that of the dataset. -/
theorem hallOpened_agrees :
    ∃ stores, hallData.embed = .ok stores ∧
      stores.rowTruth? hallTable (.contains (.direct hallOpened hallTable) "-04-") 0 = some .yes ∧
      stores.documentKept? hallTable (.contains (.direct hallOpened hallTable) "-04-") 0 =
        some true := by
  obtain ⟨stores, embedded⟩ : ∃ stores, hallData.embed = .ok stores := ⟨_, rfl⟩
  have isSource : hallData.catalog.table 1 = .ok hallTable := rfl
  obtain ⟨table, fields, described⟩ := Dataset.exists_describes isSource
  obtain rfl : table = halls := List.mem_singleton.mp described.isTable
  obtain ⟨_, field, value, cell, selected, kept, isField, isValue, isCell, isSelected, isKept,
    whenSelected, whenKept, _⟩ := text_test_agrees_iff rfl embedded (by decide) described
      halls_named (by decide) (described.complete 3 hallOpened rfl rfl)
      (show halls.rows[0]? = some _ from rfl) (.contains "-04-")
  cases isField
  cases isValue
  have spelling : (halls.fields[2].cell (.string "2014-4-7")).map Relational.textOf =
      .ok "2014-04-07" := by
    cbv
  obtain ⟨_, isOther, shown⟩ := Outcome.map_eq_ok.mp spelling
  obtain rfl := Except.ok.inj (isCell.symm.trans isOther)
  have found : (TextTest.contains "-04-").finds (Relational.textOf cell).toList = true := by
    rw [shown]
    cbv
  refine ⟨stores, embedded, ?_, ?_⟩
  · have present : Json.string "2014-4-7" ≠ .null := by simp
    rw [← whenSelected.mpr ⟨present, found⟩]
    exact isSelected
  · rw [← whenKept.mpr ⟨⟨_, rfl⟩, found⟩]
    exact isKept

/-- A number is found by its digits in the table, and not in the document. -/
theorem hallNumber_found_in_table_only :
    hallData.check = .ok () ∧ ∃ stores, hallData.embed = .ok stores ∧
      hallData.catalog.field 2 = .ok hallNumber ∧ hallNumber.baseType = .integer ∧
      stores.rowTruth? hallTable (.startsWith (.direct hallNumber hallTable) "1") 0 = some .yes ∧
      stores.documentKept? hallTable (.startsWith (.direct hallNumber hallTable) "1") 0 =
        some false := by
  refine ⟨rfl, _, rfl, rfl, rfl, ?_, ?_⟩
  · cbv
  · cbv

end CrossQuery
