import Mathlib
import CrossQuery.Proofs.Agreement.Summary
import CrossQuery.Proofs.Dataset.Keyed

/-!
# Aggregates of all records under a window

Both stores answer an aggregate of all records of a table alike exactly where the window keeps the
only row. Where it takes the row away the database has none, and the store of documents has the row
of no records instead.
-/

set_option autoImplicit false

namespace CrossQuery

open Collection

/-- A JSON value stands for the cell that a text field holds of it. -/
theorem Cell.alike_ofJson (value : Json) : (Cell.ofJson value).Alike (some value) := by
  refine ⟨rfl, rfl, fun number isNumber => ?_⟩
  cases value with
  | whole held =>
      rw [Cell.ofJson] at isNumber
      split at isNumber
      · next fits =>
          have bounds : -(2 ^ 63) ≤ held ∧ held < 2 ^ 63 := by simpa [Cell.fitsInt64] using fits
          have same : held = number := by
            rw [← Int64.toInt_ofInt_of_le bounds.1 bounds.2]
            exact Option.some.inj isNumber
          exact same ▸ ⟨rfl, fits⟩
      · cases isNumber
  | _ => cases isNumber

namespace DatasetField

variable {field : DatasetField} {value : Json} {cell : Cell}

/-- The base types of fields that are counted. -/
def countedTypes : List BaseType :=
  [.integer, .bigInteger, .text]

theorem storageType_of_counted (counted : field.baseType ∈ countedTypes) :
    (field.storageType = .bigint ∨ field.storageType = .integer) ∨
      field.storageType = .varchar := by
  simp only [countedTypes, List.mem_cons, List.not_mem_nil, or_false] at counted
  cases isKey : field.isPrimaryKey with
  | true => exact .inl (.inl (by rw [storageType, if_pos isKey]))
  | false =>
      rw [storageType_of_not_key isKey]
      rcases counted with same | same | same <;> simp [same]

/-- The cell of a field of integers is null or an integer. -/
theorem integer_of_cell (type : field.storageType = .bigint ∨ field.storageType = .integer)
    (present : cell.isNull = false) (held : field.cell value = .ok cell) :
    ∃ number, value = .whole number ∧ Cell.fitsInt64 number = true ∧
      cell.integer? = some number := by
  cases isNull : value.isNull with
  | true =>
      rw [DatasetField.cell, if_pos isNull] at held
      cases held
      cases present
  | false =>
      rw [DatasetField.cell, isNull] at held
      exact presentCell_of_integer type held

/-- Documents hold the values of a field that is counted like the column of the field. -/
theorem alike_of_counted (counted : field.baseType ∈ countedTypes)
    (held : field.cell value = .ok cell) : cell.Alike (field.documentEntry value) := by
  cases isNull : value.isNull with
  | true =>
      rw [DatasetField.cell, if_pos isNull] at held
      cases held
      rw [documentEntry, if_pos isNull]
      exact Cell.Stored.missing.alike
  | false =>
      have unchanged : field.documentValue value = value := by
        refine documentValue_eq_self (fun same => ?_) (fun same => ?_) value <;>
          rw [same] at counted <;> exact absurd counted (by decide)
      rw [documentEntry, isNull, unchanged]
      rw [DatasetField.cell, isNull] at held
      rcases storageType_of_counted counted with isInteger | isText
      · obtain ⟨number, rfl, fits, isNumber⟩ := presentCell_of_integer isInteger held
        exact (Cell.Stored.integer isNumber fits).alike
      · have same : Cell.ofJson value = cell := by simpa [presentCell, isText] using held
        exact same ▸ Cell.alike_ofJson value

end DatasetField

namespace DatasetTable

/-- A field of a table that both stores count alike. Of several primary keys documents hold the
last only. -/
structure Counts (table : DatasetTable) (field : Field) : Prop where
  counted : field.baseType ∈ DatasetField.countedTypes
  oneKey : field.isPrimaryKey = true →
    (table.fields.filter DatasetField.isPrimaryKey).length ≤ 1

/-- A field of a table that both stores add up alike: of integers, whose absolute values add up to
a number of 64 bits. -/
structure Sums (table : DatasetTable) (field : Field) : Prop extends table.Counts field where
  isInteger : field.baseType = .integer ∨ field.baseType = .bigInteger
  small : table.magnitude field.position < 2 ^ 63

/-- The key of a field in documents is that of no other if there is one primary key at most. -/
theorem PlainlyNamed.filter_key {table : DatasetTable} (named : table.PlainlyNamed)
    {field : DatasetField} (isField : field ∈ table.fields)
    (oneKey : field.isPrimaryKey = true →
      (table.fields.filter DatasetField.isPrimaryKey).length ≤ 1) :
    (table.fields.filter fun other => other.documentKey == field.documentKey) = [field] := by
  cases isKey : field.isPrimaryKey with
  | true =>
      have sameFields : (table.fields.filter fun other => other.documentKey == field.documentKey) =
          table.fields.filter DatasetField.isPrimaryKey := by
        refine List.filter_congr fun other isOther => ?_
        rw [DatasetField.documentKey, DatasetField.documentKey, if_pos isKey]
        cases other.isPrimaryKey with
        | true => rfl
        | false => simpa using named.notId other isOther
      rw [sameFields]
      have isMember : field ∈ table.fields.filter DatasetField.isPrimaryKey :=
        List.mem_filter.mpr ⟨isField, isKey⟩
      have one : (table.fields.filter DatasetField.isPrimaryKey).length = 1 :=
        Nat.le_antisymm (oneKey isKey) (List.length_pos_of_mem isMember)
      obtain ⟨only, isOnly⟩ := List.length_eq_one_iff.mp one
      rw [isOnly] at isMember ⊢
      rw [List.mem_singleton.mp isMember]
  | false =>
      have names : (table.fields.map DatasetField.name).Nodup := by
        have spelled := named.apart
        rw [show (fun field : DatasetField => Naming.upperCase.spell field.name) =
          Naming.upperCase.spell ∘ DatasetField.name from rfl, ← List.map_map] at spelled
        exact nodup_of_map spelled
      rw [← filter_key_of_nodup names isField]
      refine List.filter_congr fun other isOther => ?_
      rw [DatasetField.documentKey, DatasetField.documentKey, isKey]
      cases isOtherKey : other.isPrimaryKey with
      | false => rfl
      | true =>
          have differs : other.name ≠ field.name := by
            intro same
            have sameField := eq_of_key_eq names isOther isField same
            rw [sameField, isKey] at isOtherKey
            cases isOtherKey
          have notId : "_id" ≠ field.name := Ne.symm (named.notId field isField)
          simp [differs, notId]

end DatasetTable

namespace Dataset

variable {dataset : Dataset} {source : Table} {table : DatasetTable} {fields : List Field}
  {rows : List (List Cell)} {field : Field}

/-- The rows of a table with the documents that are made of the same rows. -/
abbrev recordsOf (table : DatasetTable) (rows : List (List Cell)) : List TableRecord :=
  rows.zip (table.rows.map table.document)

/-- The cell of a field and its value in the document of the same row. -/
theorem Describes.exists_cell (described : dataset.Describes source table fields)
    (widths : ∀ row ∈ table.rows, row.length = table.fields.length)
    (converted : table.rows.mapM table.cells = .ok rows) {record : TableRecord}
    (isRecord : record ∈ recordsOf table rows) (isField : field ∈ fields) :
    ∃ original row value, original ∈ table.fields ∧ original.traits = field.traits ∧
      row.length = table.fields.length ∧ record.2 = table.document row ∧
      (original, value) ∈ table.fields.zip row ∧
      original.cell value = .ok (cellAt record.1 field) := by
  obtain ⟨row, isRow, cells, document⟩ := table.exists_row_of_record converted isRecord
  obtain ⟨original, isOriginal, sameTraits⟩ := described.atPosition isField
  have width := widths row isRow
  obtain ⟨value, _, isEntry, isCell⟩ := DatasetTable.exists_value cells isOriginal
    (DatasetTable.lt_length_row width isOriginal)
  exact ⟨original, row, value, List.mem_of_getElem? isOriginal, sameTraits, width, document,
    isEntry, isCell⟩

/-- A field that is counted is held alike by both stores. -/
theorem Describes.held (described : dataset.Describes source table fields)
    (named : table.PlainlyNamed)
    (widths : ∀ row ∈ table.rows, row.length = table.fields.length)
    (converted : table.rows.mapM table.cells = .ok rows) (isField : field ∈ fields)
    (counts : table.Counts field) :
    FieldHeld source (table.columns .upperCase) (recordsOf table rows) (.direct field source) where
  reads row := by
    obtain ⟨column, resolved⟩ := described.resolve_column named.apart isField
      (Naming.upperCase.spell source.name)
    exact evaluate_of_resolved resolved row
  plain := described.plainKey named.plain isField
  alike record isRecord := by
    obtain ⟨original, row, value, isOriginal, sameTraits, width, document, isEntry, isCell⟩ :=
      described.exists_cell widths converted isRecord isField
    have sameType : original.baseType = field.baseType := congrArg (·.2.1) sameTraits
    have sameSpecial : original.specialType = field.specialType := congrArg (·.2.2) sameTraits
    have sameKey : original.isPrimaryKey = field.isPrimaryKey := by
      rw [DatasetField.isPrimaryKey, Field.isPrimaryKey, sameSpecial]
    have only := named.filter_key isOriginal fun isKey => counts.oneKey (sameKey ▸ isKey)
    have stored := DatasetTable.lookup?_document width isEntry only
    rw [← keyOfTraits_original, sameTraits, keyOfTraits_field] at stored
    rw [document]
    have isStored : Json.lookup? (keyName (.direct field source)) (table.document row) =
        original.documentEntry value := stored
    rw [isStored]
    exact original.alike_of_counted (sameType ▸ counts.counted) isCell

/-- Both stores compute an aggregate of a field that they hold alike. -/
theorem Describes.aggregable_sum (described : dataset.Describes source table fields)
    (named : table.PlainlyNamed)
    (widths : ∀ row ∈ table.rows, row.length = table.fields.length)
    (converted : table.rows.mapM table.cells = .ok rows) (isField : field ∈ fields)
    (sums : table.Sums field) :
    Aggregable source (table.columns .upperCase) (recordsOf table rows) .sum
      (some (.direct field source)) := by
  refine .sum (described.held named widths converted isField sums.toCounts) sums.isInteger ?_ ?_
  · intro cell isPresent
    obtain ⟨isValue, notNull⟩ := List.mem_filter.mp isPresent
    obtain ⟨record, isRecord, rfl⟩ := List.mem_map.mp isValue
    obtain ⟨original, row, value, _, sameTraits, _, _, _, isCell⟩ :=
      described.exists_cell widths converted isRecord isField
    have sameType : original.baseType = field.baseType := congrArg (·.2.1) sameTraits
    obtain ⟨number, _, _, isNumber⟩ := original.integer_of_cell
      (original.storageType_of_integer (sameType ▸ sums.isInteger)) 
      (by simpa [sourceValue, valueIn, PlanField.direct] using notNull) isCell
    exact ⟨number, isNumber⟩
  · obtain ⟨original, isOriginal, sameTraits⟩ := described.atPosition isField
    have sameType : original.baseType = field.baseType := congrArg (·.2.1) sameTraits
    have sameLength : rows.length ≤ (table.rows.map table.document).length := by
      simpa using congrArg List.length (Outcome.mapM_eq_ok_iff.mp converted).symm |>.le
    have total := DatasetTable.magnitude_eq widths converted isOriginal
      (sameType ▸ sums.isInteger)
    rw [← List.map_fst_zip sameLength, List.map_map] at total
    rw [magnitude, sourceValues, List.map_map]
    exact Nat.lt_of_le_of_lt (Nat.le_of_eq total) sums.small

end Dataset

/-- What both stores answer a plan with: the rows of the database, the documents that the other
store is left with, and the rows that are made of the documents. -/
structure EmbeddedStores.Answered (stores : EmbeddedStores) (plan documentPlan : Plan)
    (rows : List (List Json)) (documents : List Document) (documentRows : List (List Json)) :
    Prop where
  tables : ∃ statement answer, Relational.statementOfPlan .upperCase plan = .ok statement ∧
    stores.database.answer statement = .ok answer ∧ rows = answer.rows.map (·.map Cell.toJson)
  documents : ∃ pipeline keys, pipelineOfPlan documentPlan = .ok pipeline ∧
    stores.documents.aggregate pipeline.collection pipeline.stages = .ok documents ∧
    documentPlan.columns.mapM outputKey = .ok keys ∧
    documentRows = (rowsetOfDocuments documentPlan keys
      (documentPlan.columns.map Capabilities.document.columnName) documents).rows.map
      (·.map Cell.toJson)

section Total

variable {stores : EmbeddedStores} {source : Table} {columns : List Column}
  {records kept : List TableRecord} {plan : Plan} {kind : AggregateKind} {of : Option PlanField}

/-- Both stores answer an aggregate of all records. -/
theorem Plan.Totals.answered (totals : plan.Totals source kind of)
    (keptAlike : KeptAlike stores source columns records kept plan.filter)
    (aggregable : Aggregable source columns records kind of) (few : records.length < 2 ^ 63) :
    ∃ rows documents documentRows, stores.Answered plan plan rows documents documentRows ∧
      (KeepsFirst plan.offset plan.limit → documentRows = rows ∧ (documents = [] ↔ kept = [])) ∧
      (¬ KeepsFirst plan.offset plan.limit →
        rows = [] ∧ documents = [] ∧ documentRows = [[(emptyAggregate kind).toJson]]) := by
  obtain ⟨statement, answer, selected, answered, rows⟩ := totals.answer keptAlike aggregable
  obtain ⟨pipeline, piped, aggregated⟩ := totals.aggregate keptAlike aggregable few
  refine ⟨_, _, _, ⟨⟨statement, answer, selected, answered, rfl⟩,
    ⟨pipeline, _, piped, aggregated, totals.outputKeys, rfl⟩⟩, fun keeps => ?_, fun cuts => ?_⟩
  · rw [window_totalDocuments keeps, rows, window_singleton keeps]
    exact ⟨totals.toJson_totalDocuments aggregable keptAlike.part few, totalDocuments_eq_nil_iff⟩
  · rw [window_totalDocuments_of_not_keeps cuts, rows, window_singleton_of_not_keeps cuts]
    refine ⟨rfl, rfl, ?_⟩
    rw [toJson_emptyAggregate]
    exact totals.rowsOfDocuments_nil _

end Total

namespace Query

/-- What holds of the field that a query refers to, and of its table in the dataset. -/
def Concerns (query : Query) (dataset : Dataset) (ref : FieldRef)
    (holds : DatasetTable → Field → Prop) : Prop :=
  ∀ id field source table, ref = .direct id → dataset.catalog.field id = .ok field →
    dataset.catalog.table query.sourceTable = .ok source → table ∈ dataset.tables →
    table.name = source.name → holds table field

/-- An aggregate of all records that both stores compute alike. -/
inductive Totalled (query : Query) (dataset : Dataset) : Prop where
  | count : query.aggregation = .count → Totalled query dataset
  | distinct {ref : FieldRef} :
      query.aggregation = .distinct ref → query.Concerns dataset ref DatasetTable.Counts →
      Totalled query dataset
  | sum {ref : FieldRef} :
      query.aggregation = .sum ref → query.Concerns dataset ref DatasetTable.Sums →
      Totalled query dataset

variable {dataset : Dataset} {query : Query} {source : Table} {table : DatasetTable}
  {fields : List Field} {rows : List (List Cell)} {columns : List PlanColumn}
  {breakout : List PlanField}

/-- The aggregate that is asked for is one that both stores compute alike. -/
theorem Totalled.of_asked (totalled : query.Totalled dataset)
    (isSource : dataset.catalog.table query.sourceTable = .ok source)
    (described : dataset.Describes source table fields) (named : table.PlainlyNamed)
    (widths : ∀ row ∈ table.rows, row.length = table.fields.length)
    (converted : table.rows.mapM table.cells = .ok rows)
    (asked : CompileContext.Asked dataset.catalog query (planFields source fields) columns
      breakout) :
    breakout.length = query.breakout.length ∧
      ∃ kind of, columns = breakout.map .field ++ [.aggregate kind of] ∧
        (∀ field, of = some field → field.isJoined = false) ∧
        Aggregable source (table.columns .upperCase) (Dataset.recordsOf table rows) kind of := by
  unfold CompileContext.Asked at asked
  cases totalled with
  | count isCount =>
      rw [isCount] at asked
      obtain ⟨_, length, of, isAggregate, without, _⟩ := asked
      obtain rfl := without rfl
      refine ⟨length, .count, none, isAggregate, ?_, .count⟩
      intro field impossible
      cases impossible
  | distinct isDistinct counts =>
      rw [isDistinct] at asked
      obtain ⟨_, length, of, isAggregate, _, found⟩ := asked
      obtain ⟨id, field, isDirect, rfl, isKnown, isField⟩ := found _ rfl
      have counted := counts id field.field source table isDirect isField isSource
        described.isTable described.name.symm
      obtain ⟨original, isOriginal, rfl⟩ := mem_planFields.mp isKnown
      refine ⟨length, .distinct, _, isAggregate, ?_, ?_⟩
      · intro field same
        obtain rfl := Option.some.inj same
        rfl
      · exact .distinct (described.held named widths converted isOriginal counted)
  | sum isSum sums =>
      rw [isSum] at asked
      obtain ⟨_, length, of, isAggregate, _, found⟩ := asked
      obtain ⟨id, field, isDirect, rfl, isKnown, isField⟩ := found _ rfl
      have summed := sums id field.field source table isDirect isField isSource
        described.isTable described.name.symm
      obtain ⟨original, isOriginal, rfl⟩ := mem_planFields.mp isKnown
      refine ⟨length, .sum, _, isAggregate, ?_, ?_⟩
      · intro field same
        obtain rfl := Option.some.inj same
        rfl
      · exact described.aggregable_sum named widths converted isOriginal summed

end Query

/-- Without a filter both stores keep all records of a table. -/
theorem Dataset.Describes.keptAlike {dataset : Dataset} {source : Table} {table : DatasetTable}
    {fields : List Field} {stores : EmbeddedStores}
    (described : dataset.Describes source table fields)
    (names : (dataset.tables.map fun table => Naming.upperCase.spell table.name).Nodup)
    (embedded : dataset.embed = .ok stores) :
    ∃ rows, table.rows.mapM table.cells = .ok rows ∧
      KeptAlike stores source (table.columns .upperCase) (recordsOf table rows)
        (recordsOf table rows) none := by
  obtain ⟨_, built, sameDocuments⟩ := embed_eq_ok embedded
  obtain ⟨rows, converted, isStored⟩ := table_database names built described.isTable
  have sameLength : rows.length = table.rows.length := by
    simpa using congrArg List.length (Outcome.mapM_eq_ok_iff.mp converted).symm
  have areRows : (recordsOf table rows).map Prod.fst = rows :=
    List.map_fst_zip (by rw [List.length_map, sameLength])
  have areDocuments : (recordsOf table rows).map Prod.snd = table.rows.map table.document :=
    List.map_snd_zip (by rw [List.length_map, sameLength])
  refine ⟨rows, converted, ?_⟩
  exact
    { rows := by rw [described.name, isStored, areRows]
      documents := by
        rw [described.name, sameDocuments, documents_eq (nodup_tableNames names) described.isTable,
          areDocuments]
      filterRows := rfl
      filterDocuments := ⟨[], rfl, rfl⟩
      part := List.Sublist.refl _ }

/-- Both stores of a dataset answer an aggregate of all records of a table, alike where the window
keeps the only row. Where it does not the store of documents has the row of no records, while the
database has no row. -/
theorem totals_answered {dataset : Dataset} {stores : EmbeddedStores} {query : Query}
    {databaseId : Int} {maxRows : Option Nat} {plan documentPlan : Plan}
    (checked : dataset.check = .ok ())
    (names : (dataset.tables.map fun table => Naming.upperCase.spell table.name).Nodup)
    (named : ∀ table ∈ dataset.tables, table.PlainlyNamed)
    (countable : ∀ table ∈ dataset.tables, table.rows.length < 2 ^ 63)
    (embedded : dataset.embed = .ok stores) (portable : query.Portable stores.catalog)
    (unfiltered : query.filter = none) (ungrouped : query.breakout = [])
    (totalled : query.Totalled dataset)
    (bounded : ∀ count, maxRows = some count → count < 2 ^ 64)
    (compiled : query.compile stores.catalog (.relational .upperCase) databaseId maxRows =
      .ok plan)
    (documentCompiled : query.compile stores.catalog .document databaseId maxRows =
      .ok documentPlan) :
    ∃ source table kind of rows documents documentRows,
      dataset.catalog.table query.sourceTable = .ok source ∧ table ∈ dataset.tables ∧
      table.name = source.name ∧ plan.columns = [.aggregate kind of] ∧
      stores.Answered plan documentPlan rows documents documentRows ∧
      (KeepsFirst plan.offset plan.limit →
        documentRows = rows ∧ (documents = [] ↔ table.rows = [])) ∧
      (¬ KeepsFirst plan.offset plan.limit →
        rows = [] ∧ documents = [] ∧ documentRows = [[(emptyAggregate kind).toJson]]) := by
  obtain ⟨sameCatalog, _, _⟩ := Dataset.embed_eq_ok embedded
  rw [Query.compile_of_local portable.isLocal stores.catalog .document (.relational .upperCase),
    compiled] at documentCompiled
  obtain rfl := Except.ok.inj documentCompiled
  obtain ⟨source, isSource, planned⟩ := portable.of_compile bounded compiled
  rw [sameCatalog] at isSource planned
  obtain ⟨table, fields, described⟩ := Dataset.exists_describes isSource
  have isTable := described.isTable
  have widths := Dataset.width_of_check checked isTable
  obtain ⟨rows, converted, keptAlike⟩ := described.keptAlike names embedded
  obtain ⟨portablePlan, asked⟩ := planned _ (described.knows (.relational .upperCase))
  obtain ⟨length, kind, of, isAggregate, direct, aggregable⟩ :=
    totalled.of_asked isSource described (named table isTable) widths converted asked
  rw [ungrouped] at length
  have noBreakout : plan.breakout = [] := List.length_eq_zero_iff.mp length
  rw [noBreakout] at isAggregate
  have totals : plan.Totals source kind of :=
    { source := portablePlan.source
      joins := portablePlan.joins
      columns := isAggregate
      breakout := noBreakout
      orderBy := portablePlan.unordered noBreakout isAggregate
      limit := portablePlan.limit
      offset := portablePlan.offset
      direct := direct }
  have sameLength : rows.length = table.rows.length := by
    simpa using congrArg List.length (Outcome.mapM_eq_ok_iff.mp converted).symm
  have allRecords : (Dataset.recordsOf table rows).length = table.rows.length := by
    rw [List.length_zip, List.length_map, sameLength, Nat.min_self]
  rw [← Query.filter_of_compile unfiltered compiled] at keptAlike
  obtain ⟨tableRows, documents, documentRows, answered, keeps, cuts⟩ :=
    totals.answered keptAlike aggregable (allRecords ▸ countable table isTable)
  refine ⟨source, table, kind, of, tableRows, documents, documentRows, isSource, isTable,
    described.name.symm, isAggregate, answered, fun kept => ?_, cuts⟩
  obtain ⟨sameRows, noDocuments⟩ := keeps kept
  refine ⟨sameRows, noDocuments.trans ?_⟩
  rw [← List.length_eq_zero_iff, allRecords, List.length_eq_zero_iff]

/-- The sum of all prices, in so many rows at most. -/
def priceTotal (limit : Nat) : Query :=
  { cheapProducts with
    filter := none
    aggregation := .sum (.direct 2)
    fields := []
    limit := some limit }

theorem products_named : ∀ table ∈ products.tables, table.PlainlyNamed := by
  intro table isTable
  have regular := products_regular.tables table isTable
  exact ⟨regular.names, fun field member => (regular.fields field member).plain,
    fun field member => (regular.fields field member).notId⟩

theorem priceTotal_portable : (priceTotal 1).Portable products.catalog where
  filter := nofun
  source ref isSource := by
    obtain rfl := Option.some.inj isSource
    exact .direct 2
  breakout ref member := absurd member List.not_mem_nil
  orderBy key member := absurd member List.not_mem_nil
  fields ref member := absurd member List.not_mem_nil
  limit count isLimit := by
    obtain rfl := Option.some.inj isLimit
    decide
  items := nofun

theorem priceTotal_totalled : (priceTotal 1).Totalled products := by
  refine .sum rfl fun id field source table isDirect isField isSource isTable _ => ?_
  cases isDirect
  cases isField
  obtain rfl := List.mem_singleton.mp isTable
  exact ⟨⟨by decide, nofun⟩, .inl rfl, by decide⟩

theorem priceTotal_answered :
    ∃ stores plan rows documents, products.embed = .ok stores ∧
      (priceTotal 1).compile stores.catalog (.relational .upperCase) 1 none = .ok plan ∧
      KeepsFirst plan.offset plan.limit ∧ stores.Answered plan plan rows documents rows := by
  obtain ⟨stores, embedded⟩ : ∃ stores, products.embed = .ok stores := ⟨_, rfl⟩
  obtain ⟨sameCatalog, _, _⟩ := Dataset.embed_eq_ok embedded
  obtain ⟨plan, compiled⟩ : ∃ plan,
      (priceTotal 1).compile products.catalog (.relational .upperCase) 1 none = .ok plan :=
    ⟨_, rfl⟩
  have keepsFirst : KeepsFirst plan.offset plan.limit := by
    cases compiled
    exact ⟨rfl, by decide⟩
  have documentCompiled : (priceTotal 1).compile products.catalog .document 1 none = .ok plan :=
    compiled
  have unbounded : ∀ count, (none : Option Nat) = some count → count < 2 ^ 64 := nofun
  rw [← sameCatalog] at compiled documentCompiled
  obtain ⟨_, _, _, _, rows, documents, documentRows, _, _, _, _, answered, keeps, _⟩ :=
    totals_answered rfl (by decide) products_named (by decide) embedded
      (sameCatalog ▸ priceTotal_portable) rfl rfl priceTotal_totalled unbounded compiled
      documentCompiled
  obtain ⟨sameRows, _⟩ := keeps keepsFirst
  exact ⟨stores, plan, rows, documents, embedded, compiled, keepsFirst, sameRows ▸ answered⟩

/-- Pairs of numbers that are both primary keys. -/
def twins : Dataset :=
  { databaseId := 1
    tables :=
      [{ name := "twins"
         description := none
         fields :=
          [⟨"left", .integer, some .id, none, none⟩, ⟨"right", .integer, some .id, none, none⟩]
         rows := [[.whole 1, .whole 5], [.whole 1, .whole 6]] }] }

/-- The numbers on the left, each of them counted once. -/
def twinCount : Query :=
  { cheapProducts with
    filter := none
    aggregation := .distinct (.direct 1)
    fields := [] }

/-- A window that takes the row away, and documents that hold one of two primary keys. -/
theorem totals_answered_apart :
    (∃ stores plan, products.embed = .ok stores ∧
      (priceTotal 0).compile stores.catalog (.relational .upperCase) 1 none = .ok plan ∧
      (priceTotal 0).compile stores.catalog .document 1 none = .ok plan ∧
      stores.Answered plan plan [] [] [[.null]]) ∧
    ∃ stores plan documents, twins.embed = .ok stores ∧
      twinCount.compile stores.catalog (.relational .upperCase) 1 none = .ok plan ∧
      twinCount.compile stores.catalog .document 1 none = .ok plan ∧
      stores.Answered plan plan [[.whole 1]] documents [[.whole 2]] := by
  constructor
  · exact ⟨_, _, rfl, rfl, rfl, ⟨_, _, rfl, rfl, rfl⟩, ⟨_, _, rfl, rfl, rfl, rfl⟩⟩
  · refine ⟨_, _, _, rfl, rfl, rfl, ⟨_, _, rfl, rfl, ?_⟩, ⟨_, _, rfl, rfl, rfl, ?_⟩⟩
    · cbv
    · cbv

end CrossQuery
