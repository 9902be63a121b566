import CrossQuery.Proofs.Collection.Counted
import CrossQuery.Proofs.Engine.Completed
import CrossQuery.Proofs.Relational.Counted

/-!
# Counts of groups

The counts of the groups of records add up to the count of all records that pass the same filter,
whichever store answers: no record is left out of the groups, and none is in two of them.
-/

set_option autoImplicit false

namespace CrossQuery

/-- Stores with fewer records for a plan than 64 bits count: rows of the tables that it joins, and
documents. -/
structure EmbeddedStores.Countable (stores : EmbeddedStores) (plan : Plan) : Prop where
  rows : ∀ statement joined, Relational.statementOfPlan .upperCase plan = .ok statement →
    stores.database.source statement = .ok joined → joined.rows.length < 2 ^ 63
  documents : (stores.documents.documents plan.source.name).length < 2 ^ 63

/-- Without joins it is enough that the dataset has fewer rows than that. -/
theorem Dataset.countable_of_noJoins {dataset : Dataset} {stores : EmbeddedStores}
    (embedded : dataset.embed = .ok stores) (few : dataset.rowCount < 2 ^ 63) {plan : Plan}
    (noJoins : plan.joins = []) : stores.Countable plan := by
  obtain ⟨_, built, filled⟩ := Dataset.embed_eq_ok embedded
  refine ⟨fun statement joined written isSource => ?_, ?_⟩
  · obtain ⟨_, _, same⟩ := Outcome.bind_eq_ok.mp written
    cases same
    obtain ⟨table, found, joins⟩ := Outcome.bind_eq_ok.mp isSource
    rw [noJoins] at joins
    cases joins
    exact Nat.lt_of_le_of_lt (Dataset.length_rows_le built found) few
  · rw [filled]
    exact Nat.lt_of_le_of_lt (dataset.length_documents_le _) few

/-- The numbers that the rows of an envelope end in. -/
def Envelope.counts (envelope : Envelope) : List (Option Int) :=
  envelope.rows.map countOf?

namespace Engine

variable {engine : Engine Site} {request : Request} {dataset : Dataset} {stores : EmbeddedStores}
  {compiled : Compiled Site} {databaseId : Int} {query : Query}

theorem exists_answer_of_tables {database : Relational.Database} {name store : String}
    {catalog : Catalog} {plan : Plan} (arranged : plan.Arranged)
    (compiles : engine.compile request = .ok ⟨.tables name .upperCase store database catalog, plan⟩)
    {cancelAt : Option Nat} {site : Site} {envelope : Envelope}
    (completed : (engine.run request cancelAt site).result = .ok envelope) :
    ∃ rowset, database.answerPlan .upperCase plan = .ok (.ok rowset) ∧
      envelope.rows = rowset.rows := by
  obtain ⟨answer, answered, final⟩ := database.exists_answerPlan arranged .upperCase
  obtain ⟨rowset, rfl, answers⟩ :=
    exists_answer_of_run compiles (Backend.asks_tables answered final) completed
  exact ⟨rowset, answered, answers.rows⟩

theorem exists_answer_of_documents {documents : Collection.Store} {name store : String}
    {catalog : Catalog} {plan : Plan} (arranged : plan.Arranged) (noJoins : plan.joins = [])
    (direct : ∀ field ∈ plan.fields, field.isJoined = false)
    (compiles : engine.compile request = .ok ⟨.documents name store documents catalog, plan⟩)
    {cancelAt : Option Nat} {site : Site} {envelope : Envelope}
    (completed : (engine.run request cancelAt site).result = .ok envelope) :
    ∃ rowset, documents.answerPlan plan = .ok (.ok rowset) ∧ envelope.rows = rowset.rows := by
  obtain ⟨answer, answered, final⟩ := documents.exists_answerPlan arranged noJoins direct
  obtain ⟨rowset, rfl, answers⟩ :=
    exists_answer_of_run compiles (Backend.asks_documents answered final) completed
  exact ⟨rowset, answered, answers.rows⟩

theorem compile_ungrouped (counts : query.Counts)
    (compiles : engine.compile ⟨databaseId, query⟩ = .ok compiled) :
    engine.compile ⟨databaseId, query.ungrouped⟩ =
      .ok ⟨compiled.backend, compiled.plan.ungrouped⟩ := by
  obtain ⟨backend, isBackend, rest⟩ := Outcome.bind_eq_ok.mp compiles
  obtain ⟨plan, isPlan, same⟩ := Outcome.bind_eq_ok.mp rest
  obtain rfl := Except.ok.inj same
  obtain ⟨_, _, others⟩ := counts.of_compile isPlan
  exact Outcome.bind_eq_ok.mpr ⟨backend, isBackend, Outcome.bind_eq_ok.mpr ⟨_, others, rfl⟩⟩

theorem getLast?_columns_of_run (compiles : engine.compile request = .ok compiled)
    (counts : compiled.plan.Counts) {cancelAt : Option Nat} {site : Site} {envelope : Envelope}
    (completed : (engine.run request cancelAt site).result = .ok envelope) :
    envelope.columns.getLast? = some "count" := by
  rw [(run_of_compiled compiles cancelAt site).1] at completed
  rw [columns_of_conclude completed, Plan.columnNames, List.getLast?_map, counts.getLast?_columns]
  rfl

/-- The counts of groups by fields of the source add up to the count of all records with the same
filter, where both are completed by an embedded store. None of them is less than one, unless all
records are counted together and there are none. -/
theorem counts_add_up (embedded : dataset.embed = .ok stores)
    (isEmbedded : compiled.backend ∈ CommandLine.embeddedBackends stores) (counts : query.Counts)
    (finite : query.IsFinite) (compiles : engine.compile ⟨databaseId, query⟩ = .ok compiled)
    (countable : stores.Countable compiled.plan) {cancelAt otherCancelAt : Option Nat}
    {site otherSite : Site} {grouped whole : Envelope}
    (isGrouped : (engine.run ⟨databaseId, query⟩ cancelAt site).result = .ok grouped)
    (isWhole : (engine.run ⟨databaseId, query.ungrouped⟩ otherCancelAt otherSite).result =
      .ok whole) :
    grouped.columns.getLast? = some "count" ∧ whole.columns.getLast? = some "count" ∧
      ∃ sizes : List Int, grouped.counts = sizes.map some ∧ whole.counts = [some sizes.sum] ∧
        (query.breakout ≠ [] ∨ sizes.sum ≠ 0 → ∀ size ∈ sizes, 1 ≤ size) := by
  obtain ⟨sameCatalog, _, _⟩ := Dataset.embed_eq_ok embedded
  have isPlan := plan_of_compile compiles
  have otherCompiles := compile_ungrouped counts compiles
  have isOtherPlan := plan_of_compile otherCompiles
  obtain ⟨planCounts, noBreakout, _⟩ := counts.of_compile isPlan
  refine ⟨getLast?_columns_of_run compiles planCounts isGrouped,
    getLast?_columns_of_run otherCompiles planCounts.ungrouped isWhole, ?_⟩
  obtain ⟨backend, plan⟩ := compiled
  -- It is enough that the store tallies both answers over the same number of records.
  suffices sums : ∃ total sizes others, plan.Tallies grouped.rows total sizes ∧
      plan.ungrouped.Tallies whole.rows total others by
    obtain ⟨total, sizes, others, tallies, wholeTallies⟩ := sums
    rw [ne_eq, ← noBreakout]
    exact tallies.add_up wholeTallies
  rcases List.mem_cons.mp isEmbedded with rfl | isDocuments
  · dsimp only [Backend.tables] at isPlan isOtherPlan
    rw [sameCatalog] at isPlan isOtherPlan
    obtain ⟨answer, answered, sameRows⟩ := exists_answer_of_tables
      (dataset.wellFormed_of_compile isPlan).arranged compiles isGrouped
    obtain ⟨other, otherAnswered, otherRows⟩ := exists_answer_of_tables
      (dataset.wellFormed_of_compile isOtherPlan).arranged otherCompiles isWhole
    rw [sameRows, otherRows]
    exact Relational.Database.tallies_of_answerPlan planCounts (finite.expresses isPlan)
      countable.rows answered otherAnswered
  · obtain rfl := List.mem_singleton.mp isDocuments
    dsimp only [Backend.documents] at isPlan isOtherPlan
    rw [sameCatalog] at isPlan isOtherPlan
    have wellFormed := dataset.wellFormed_of_compile isPlan
    have otherFormed := dataset.wellFormed_of_compile isOtherPlan
    have noJoins := wellFormed.unsupported rfl
    obtain ⟨answer, answered, sameRows⟩ := exists_answer_of_documents wellFormed.arranged noJoins
      (fun field member => (wellFormed.reaches field member).isJoined_eq_false noJoins)
      compiles isGrouped
    obtain ⟨other, otherAnswered, otherRows⟩ := exists_answer_of_documents otherFormed.arranged
      noJoins (fun field member => (otherFormed.reaches field member).isJoined_eq_false noJoins)
      otherCompiles isWhole
    rw [sameRows, otherRows]
    exact Collection.Store.tallies_of_answerPlan planCounts countable.documents answered
      otherAnswered

/-- Loans of a library, of which two have no reader, and returns, of which there are none. -/
def library : Dataset where
  databaseId := 1
  tables :=
    [⟨"loans", none,
        [⟨"id", .integer, some .id, none, none⟩, ⟨"reader", .text, none, none, none⟩],
        [[.whole 1, .string "ann"], [.whole 2, .null], [.whole 3, .null]]⟩,
      ⟨"returns", none, [⟨"id", .integer, some .id, none, none⟩], []⟩]

/-- How many of the loans without a reader each reader has. -/
def loansByReader : Query where
  sourceTable := 1
  filter := some (.isNull (.direct 2))
  aggregation := .count
  breakout := [.direct 2]
  orderBy := [⟨.direct 2, .descending⟩]
  fields := []
  limit := none
  page := none

/-- How many returns there are. -/
def returnsTogether : Query :=
  { loansByReader with sourceTable := 2, filter := none, breakout := [], orderBy := [] }

theorem loansByReader_counts : loansByReader.Counts where
  aggregation := rfl
  breakout _ member := List.mem_singleton.mp member ▸ .direct 2
  orderBy _ member := List.mem_singleton.mp member ▸ .direct 2
  limit := rfl
  page := rfl

theorem loansByReader_finite : loansByReader.IsFinite := by
  intro filter isFilter value isValue
  cases isFilter
  cases isValue

theorem returnsTogether_counts : returnsTogether.Counts where
  aggregation := rfl
  breakout := List.forall_mem_nil _
  orderBy := List.forall_mem_nil _
  limit := rfl
  page := rfl

theorem exists_envelope_of_counts {result : Except StageFailure Envelope}
    {counts : List (Option Int)}
    (counted : result.toOption.map Envelope.counts = some counts) :
    ∃ envelope, result = .ok envelope ∧ envelope.counts = counts := by
  cases result with
  | error failure => cases counted
  | ok envelope => exact ⟨envelope, rfl, Option.some.inj counted⟩

/-- Both stores count two loans without a reader in one group, and two all together. -/
theorem loans_add_up :
    ∃ stores, library.embed = .ok stores ∧ ∀ engine ∈ [overTables stores, overStores stores],
      ∃ grouped whole,
        (engine.run ⟨1, loansByReader⟩ none .initial).result = .ok grouped ∧
        (engine.run ⟨1, loansByReader.ungrouped⟩ none .initial).result = .ok whole ∧
        grouped.counts = [some 2] ∧
        grouped.columns.getLast? = some "count" ∧ whole.columns.getLast? = some "count" ∧
        ∃ sizes : List Int, grouped.counts = sizes.map some ∧ whole.counts = [some sizes.sum] ∧
          (loansByReader.breakout ≠ [] ∨ sizes.sum ≠ 0 → ∀ size ∈ sizes, 1 ≤ size) := by
  obtain ⟨stores, embedded, known⟩ : ∃ stores, library.embed = .ok stores ∧
      ∀ engine ∈ [overTables stores, overStores stores],
        (∃ compiled, engine.compile ⟨1, loansByReader⟩ = .ok compiled ∧
          compiled.backend ∈ CommandLine.embeddedBackends stores ∧ compiled.plan.joins = []) ∧
        (engine.run ⟨1, loansByReader⟩ none .initial).result.toOption.map Envelope.counts =
          some [some 2] ∧
        (engine.run ⟨1, loansByReader.ungrouped⟩ none .initial).result.toOption.map
          Envelope.counts = some [some 2] := by
    refine ⟨_, rfl, List.forall_mem_cons.mpr ⟨⟨?_, ?_, ?_⟩, List.forall_mem_singleton.mpr
      ⟨?_, ?_, ?_⟩⟩⟩
    · exact ⟨_, rfl, List.mem_cons_self, rfl⟩
    · decide +kernel
    · decide +kernel
    · exact ⟨_, rfl, List.mem_cons_of_mem _ List.mem_cons_self, rfl⟩
    · decide +kernel
    · decide +kernel
  refine ⟨stores, embedded, fun engine isEngine => ?_⟩
  obtain ⟨⟨compiled, compiles, isEmbedded, noJoins⟩, groupedCounts, wholeCounts⟩ :=
    known engine isEngine
  obtain ⟨grouped, isGrouped, groupedCounts⟩ := exists_envelope_of_counts groupedCounts
  obtain ⟨whole, isWhole, _⟩ := exists_envelope_of_counts wholeCounts
  have few : library.rowCount < 2 ^ 63 := by decide
  exact ⟨grouped, whole, isGrouped, isWhole, groupedCounts,
    counts_add_up embedded isEmbedded loansByReader_counts loansByReader_finite compiles
      (Dataset.countable_of_noJoins embedded few noJoins) isGrouped isWhole⟩

/-- Without fields to group by all records are one group, also where there are none, and its count
is less than one. -/
theorem returns_counted_as_none :
    returnsTogether.Counts ∧
      ∃ stores, library.embed = .ok stores ∧ ∀ engine ∈ [overTables stores, overStores stores],
        ∃ grouped, (engine.run ⟨1, returnsTogether⟩ none .initial).result = .ok grouped ∧
          (engine.run ⟨1, returnsTogether.ungrouped⟩ none .initial).result = .ok grouped ∧
          grouped.counts = [some 0] ∧
          ¬ ∃ sizes : List Int, grouped.counts = sizes.map some ∧ ∀ size ∈ sizes, 1 ≤ size := by
  obtain ⟨stores, embedded, known⟩ : ∃ stores, library.embed = .ok stores ∧
      ∀ engine ∈ [overTables stores, overStores stores],
        (engine.run ⟨1, returnsTogether⟩ none .initial).result.toOption.map Envelope.counts =
          some [some 0] :=
    ⟨_, rfl, List.forall_mem_cons.mpr
      ⟨by decide +kernel, List.forall_mem_singleton.mpr (by decide +kernel)⟩⟩
  refine ⟨returnsTogether_counts, stores, embedded, fun engine isEngine => ?_⟩
  obtain ⟨grouped, isGrouped, counts⟩ := exists_envelope_of_counts (known engine isEngine)
  refine ⟨grouped, isGrouped, isGrouped, counts, ?_⟩
  rintro ⟨sizes, areCounts, positive⟩
  have isZero : some 0 ∈ sizes.map some := by
    rw [← areCounts, counts]
    exact List.mem_singleton_self _
  obtain ⟨size, isSize, same⟩ := List.mem_map.mp isZero
  cases same
  exact absurd (positive 0 isSize) (by decide)

end Engine

end CrossQuery
