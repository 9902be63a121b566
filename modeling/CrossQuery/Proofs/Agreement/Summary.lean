import CrossQuery.Proofs.Agreement.Single

/-!
# Aggregates of both stores alike

Both stores answer a portable query for an aggregate with rows of the same JSON, of the groups of
one field or of all records. An aggregate of all records has a row even without records.
-/

set_option autoImplicit false

namespace CrossQuery

open Collection

section Total

variable {stores : EmbeddedStores} {source : Table} {fields : List Field} {columns : List Column}
  {records : List TableRecord} {query : Query} {plan : Plan} {kind : AggregateKind}
  {of : Option PlanField}

/-- Both stores keep the same records for a portable filter. -/
theorem Shared.keptAlike (shared : Shared stores source fields columns records)
    {filter : Option Predicate}
    (isPortable : ∀ predicate, filter = some predicate →
      predicate.Portable (planFields source fields)) :
    KeptAlike stores source columns records
      (keptRecords filter (fun record => valueIn record.1) records) filter where
  rows := shared.rows
  documents := shared.documents
  filterRows :=
    shared.mirrored.filter_rows isPortable fun record _ => shared.evaluate_column record.1
  filterDocuments := shared.mirrored.filter_documents isPortable Shared.direct shared.plain
  part := Shared.kept_sublist filter records

/-- Both stores answer an aggregate of all records alike. -/
theorem Shared.total_answered_alike (shared : Shared stores source fields columns records)
    (portable : plan.Portable query source (planFields source fields))
    (ungrouped : plan.breakout = []) (isAggregate : plan.columns = [.aggregate kind of])
    (noOffset : plan.offset = none) (positive : plan.limit ≠ some 0)
    (few : records.length < 2 ^ 63)
    (exact : Exact (planFields source fields) records kind of) :
    stores.AnswerAlike plan plan := by
  have totals : plan.Totals source kind of :=
    { source := portable.source
      joins := portable.joins
      columns := isAggregate
      breakout := ungrouped
      orderBy := portable.unordered ungrouped isAggregate
      limit := portable.limit
      offset := portable.offset
      direct := exact.direct }
  have keeps : KeepsFirst plan.offset plan.limit := by
    rw [noOffset]
    exact ⟨rfl, positive⟩
  exact totals.answered_alike (shared.keptAlike portable.filter) (shared.aggregable exact) few keeps

end Total

/-- Both stores answer an aggregate of the groups of a field alike. -/
theorem Shared.groups_answered_alike {stores : EmbeddedStores} {source : Table}
    {fields : List Field} {columns : List Column} {records : List TableRecord} {query : Query}
    {plan : Plan} {kind : AggregateKind} {of : Option PlanField} {field : PlanField}
    (shared : Shared stores source fields columns records)
    (portable : plan.Portable query source (planFields source fields))
    (isBreakout : plan.breakout = [field])
    (isAggregate : plan.columns = plan.breakout.map .field ++ [.aggregate kind of])
    (isKnown : field ∈ planFields source fields) (apart : keyName field ≠ aggregateField)
    (few : records.length < 2 ^ 63)
    (exact : Exact (planFields source fields) records kind of) :
    stores.AnswerAlike plan plan := by
  obtain ⟨statement, answer, selected, answered, rows⟩ :=
    shared.answer_groups portable isBreakout isAggregate isKnown exact
  obtain ⟨pipeline, piped, aggregated⟩ :=
    shared.aggregate_groups portable isBreakout isAggregate isKnown apart few exact
  have keys : plan.columns.mapM outputKey = .ok [keyName field, aggregateField] := by
    rw [isAggregate, isBreakout]
    simp [outputKey, keyOfField_eq (Shared.direct field isKnown)]
  refine ⟨statement, answer, pipeline, _, _, selected, answered, piped, aggregated, keys, ?_⟩
  have documentRows (documents : List Document) :
      rowsOfDocuments plan [keyName field, aggregateField] documents =
        documents.map (rowOfDocument [keyName field, aggregateField]) := by
    unfold rowsOfDocuments
    rw [isBreakout]
    split
    · next impossible _ => cases impossible
    · rfl
  rw [rowsetOfDocuments, documentRows, rows, List.map_map, List.map_map, List.map_map]
  exact List.map_congr_left fun group member =>
    (shared.toJson_groupDocument isKnown apart few exact (mem_of_mem_answeredGroups member)).symm

/-- An aggregate that both stores compute alike: a count, or a sum of integers whose absolute
values in the whole table add up to a number of 64 bits. -/
inductive Query.ExactAggregate (dataset : Dataset) (query : Query) : Prop where
  | count : query.aggregation = .count → ExactAggregate dataset query
  | distinct {ref : FieldRef} : query.aggregation = .distinct ref → ExactAggregate dataset query
  | sum {ref : FieldRef} :
      query.aggregation = .sum ref →
      (∀ id field source table, ref = .direct id → dataset.catalog.field id = .ok field →
        dataset.catalog.table query.sourceTable = .ok source → table ∈ dataset.tables →
        table.name = source.name →
        (field.baseType = .integer ∨ field.baseType = .bigInteger) ∧
          table.magnitude field.position < 2 ^ 63) →
      ExactAggregate dataset query

/-- The groups that both stores make alike: those of one field, or all rows in one group that no
window takes away. -/
inductive Query.Grouped (query : Query) : Prop where
  | byField {ref : FieldRef} : query.breakout = [ref] → Grouped query
  | all : query.breakout = [] → query.page = none → query.limit ≠ some 0 → Grouped query

/-- The aggregate of a plan is exact over the records of its source. -/
theorem Query.ExactAggregate.of_asked {dataset : Dataset} {query : Query} {source : Table}
    {table : DatasetTable} {fields : List Field} {records : List TableRecord}
    {columns : List PlanColumn} {breakout : List PlanField}
    (exact : query.ExactAggregate dataset)
    (isSource : dataset.catalog.table query.sourceTable = .ok source)
    (described : dataset.Describes source table fields)
    (tallied : Tallied table fields records)
    (asked : CompileContext.Asked dataset.catalog query (planFields source fields) columns
      breakout) :
    (∀ field ∈ breakout, field ∈ planFields source fields) ∧
      breakout.length = query.breakout.length ∧
      ∃ kind of, columns = breakout.map .field ++ [.aggregate kind of] ∧
        Exact (planFields source fields) records kind of := by
  unfold CompileContext.Asked at asked
  cases exact with
  | count isCount =>
      rw [isCount] at asked
      obtain ⟨areKnown, length, of, isAggregate, without, _⟩ := asked
      obtain rfl := without rfl
      exact ⟨areKnown, length, .count, none, isAggregate, .count⟩
  | distinct isDistinct =>
      rw [isDistinct] at asked
      obtain ⟨areKnown, length, of, isAggregate, _, found⟩ := asked
      obtain ⟨id, field, _, rfl, isKnown, _⟩ := found _ rfl
      exact ⟨areKnown, length, .distinct, some field, isAggregate, .distinct isKnown⟩
  | sum isSum small =>
      rw [isSum] at asked
      obtain ⟨areKnown, length, of, isAggregate, _, found⟩ := asked
      obtain ⟨id, field, isDirect, rfl, isKnown, isField⟩ := found _ rfl
      obtain ⟨isInteger, few⟩ :=
        small id field.field source table isDirect isField isSource described.isTable
          described.name.symm
      obtain ⟨original, isOriginal, rfl⟩ := mem_planFields.mp isKnown
      have total := tallied.magnitude original isOriginal isInteger
      refine ⟨areKnown, length, .sum, _, isAggregate, .sum isKnown isInteger ?_⟩
      rw [magnitude, sourceValues, List.map_map]
      exact Nat.lt_of_le_of_lt (Nat.le_of_eq total) few

/-- The key of a field in documents differs from a name that neither the identifier nor another
field has. -/
theorem keyName_ne {dataset : Dataset} {source : Table} {table : DatasetTable}
    {fields : List Field} (described : dataset.Describes source table fields) {name : String}
    (notId : name ≠ "_id") (apart : ∀ field ∈ table.fields, field.name ≠ name) :
    ∀ field ∈ planFields source fields, keyName field ≠ name := by
  intro field isKnown same
  obtain ⟨original, isField, rfl⟩ := mem_planFields.mp isKnown
  have isKey : name ∈ table.fields.map DatasetField.documentKey := by
    rw [← described.keys_eq, ← same]
    exact List.mem_map_of_mem isField
  obtain ⟨stored, isStored, isName⟩ := List.mem_map.mp isKey
  unfold DatasetField.documentKey at isName
  split at isName
  · exact notId isName.symm
  · exact apart stored isStored isName

/-- Both stores of a dataset answer a portable query for an aggregate, with rows of the same JSON
in the same order. The rows of a table are counted in 64 bits. -/
theorem aggregates_answered_alike {dataset : Dataset} {stores : EmbeddedStores} {query : Query}
    {databaseId : Int} {maxRows : Option Nat} {plan documentPlan : Plan}
    (checked : dataset.check = .ok ()) (regular : dataset.Regular)
    (apart : ∀ table ∈ dataset.tables, ∀ field ∈ table.fields, field.name ≠ aggregateField)
    (countable : ∀ table ∈ dataset.tables, table.rows.length < 2 ^ 63)
    (embedded : dataset.embed = .ok stores) (portable : query.Portable stores.catalog)
    (exact : query.ExactAggregate dataset) (grouped : query.Grouped)
    (bounded : ∀ count, maxRows = some count → count < 2 ^ 64)
    (compiled : query.compile stores.catalog (.relational .upperCase) databaseId maxRows =
      .ok plan)
    (documentCompiled : query.compile stores.catalog .document databaseId maxRows =
      .ok documentPlan) :
    stores.AnswerAlike plan documentPlan := by
  obtain ⟨sameCatalog, _, _⟩ := Dataset.embed_eq_ok embedded
  rw [Query.compile_of_local portable.isLocal stores.catalog .document (.relational .upperCase),
    compiled] at documentCompiled
  obtain rfl := Except.ok.inj documentCompiled
  obtain ⟨source, isSource, planned⟩ := portable.of_compile bounded compiled
  rw [sameCatalog] at isSource planned
  obtain ⟨table, fields, described⟩ := Dataset.exists_describes isSource
  obtain ⟨columns, records, shared, tallied⟩ :=
    dataset.exists_shared checked regular embedded described
  obtain ⟨portablePlan, asked⟩ := planned _ (described.knows (.relational .upperCase))
  obtain ⟨areKnown, length, kind, of, isAggregate, exactPlan⟩ :=
    exact.of_asked isSource described tallied asked
  have few : records.length < 2 ^ 63 := by
    rw [tallied.count]
    exact countable table described.isTable
  cases grouped with
  | @byField ref isGrouped =>
      rw [isGrouped] at length
      obtain ⟨field, isBreakout⟩ := List.length_eq_one_iff.mp length
      have isKnown : field ∈ planFields source fields :=
        areKnown field (isBreakout ▸ List.mem_singleton.mpr rfl)
      have differs : keyName field ≠ aggregateField :=
        keyName_ne described (by decide) (apart table described.isTable) field isKnown
      exact shared.groups_answered_alike portablePlan isBreakout isAggregate isKnown differs few
        exactPlan
  | all isUngrouped noPage positive =>
      rw [isUngrouped] at length
      have ungrouped : plan.breakout = [] := List.length_eq_zero_iff.mp length
      rw [ungrouped] at isAggregate
      have isAggregated : plan.isAggregated = true := by
        rw [Plan.isAggregated, isAggregate]
        rfl
      obtain ⟨noOffset, sameLimit⟩ := portablePlan.unpaged noPage
      exact shared.total_answered_alike portablePlan ungrouped isAggregate noOffset
        (sameLimit isAggregated ▸ positive) few exactPlan

/-- The prices below a bound, added up for each product. -/
def cheapTotals : Query :=
  { cheapProducts with
    aggregation := .sum (.direct 2)
    breakout := [.direct 1]
    orderBy := [⟨.direct 1, .descending⟩]
    fields := [] }

theorem cheapTotals_portable : cheapTotals.Portable products.catalog where
  filter := cheapProducts_portable.filter
  source ref isSource := by
    obtain rfl := Option.some.inj isSource
    exact .direct 2
  breakout ref member := List.mem_singleton.mp member ▸ .direct 1
  orderBy key member := List.mem_singleton.mp member ▸ .direct 1
  fields ref member := absurd member List.not_mem_nil
  limit := cheapProducts_portable.limit
  items := nofun

theorem cheapTotals_exact : cheapTotals.ExactAggregate products := by
  refine .sum rfl fun id field source table isDirect isField isSource isTable _ => ?_
  cases isDirect
  cases isField
  obtain rfl := List.mem_singleton.mp isTable
  exact ⟨.inl rfl, by decide⟩

theorem cheapTotals_answered_alike :
    ∃ stores plan, products.embed = .ok stores ∧
      cheapTotals.compile stores.catalog (.relational .upperCase) 1 none = .ok plan ∧
      stores.AnswerAlike plan plan := by
  obtain ⟨stores, embedded⟩ : ∃ stores, products.embed = .ok stores := ⟨_, rfl⟩
  obtain ⟨sameCatalog, _, _⟩ := Dataset.embed_eq_ok embedded
  obtain ⟨plan, compiled⟩ : ∃ plan,
      cheapTotals.compile products.catalog (.relational .upperCase) 1 none = .ok plan := ⟨_, rfl⟩
  have documentCompiled :
      cheapTotals.compile products.catalog .document 1 none = .ok plan := compiled
  have unbounded : ∀ count, (none : Option Nat) = some count → count < 2 ^ 64 := nofun
  rw [← sameCatalog] at compiled documentCompiled
  exact ⟨stores, plan, embedded, compiled,
    aggregates_answered_alike rfl products_regular (by decide) (by decide) embedded
      (sameCatalog ▸ cheapTotals_portable) cheapTotals_exact (.byField rfl) unbounded compiled
      documentCompiled⟩

end CrossQuery
