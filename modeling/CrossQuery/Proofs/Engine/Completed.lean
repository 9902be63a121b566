import CrossQuery.Proofs.Agreement.Summary
import CrossQuery.Proofs.Dataset.Reading
import CrossQuery.Proofs.Engine.Bounded

/-!
# Runs that are completed

Where nothing outside goes wrong, a request without foreign keys that compiles for a store of a
sound dataset is completed: no step behind the compilation fails. A database must be able to compare
the values of the filter with those of their fields and to add up what is asked for.
-/

set_option autoImplicit false

namespace CrossQuery

/-- A site at which nothing goes wrong: no store refuses a connection, and statements take no longer
than is allowed. -/
structure Site.Undisturbed (site : Site) (settings : EngineSettings) : Prop where
  refusals : ∀ store, (site.store store).refusals = 0
  latency : ∀ store allowed, settings.timeout = some allowed →
    (site.store store).latency ≤ allowed

/-- A plan that a database can compute: its filter compares values with fields of their kind, and
no sum of integers leaves 64 bits. -/
structure Plan.Computable (plan : Plan) (database : Relational.Database) : Prop where
  typed : ∀ predicate ∈ plan.filter, predicate.Typed
  sums : plan.SumsFit database

namespace Engine

variable {engine : Engine Site} {request : Request} {compiled : Compiled Site}

/-- A result in the shape of the plan whose columns can be described is put into an envelope. -/
theorem exists_conclude {σ : Type} {compiled : Compiled σ} {rowset : Rowset}
    {descriptors : List ColumnDescriptor}
    (tabulates : compiled.plan.Tabulates compiled.backend.capabilities rowset)
    (described : compiled.plan.describe rowset.columns compiled.backend.catalog
      compiled.backend.capabilities = .ok descriptors) :
    ∃ envelope, conclude compiled (.ok rowset) = .ok envelope ∧
      envelope.columns = compiled.plan.columnNames compiled.backend.capabilities ∧
      ∀ row ∈ envelope.rows, row.length = envelope.columns.length := by
  have names := (Plan.describe_eq_ok described).2
  have width : descriptors.length = compiled.plan.columns.length := by
    simpa [Plan.columnNames] using congrArg List.length names
  have shaped : checkShape rowset.rows descriptors.length = .ok () := by
    rw [checkShape_eq_ok_iff, width]
    exact tabulates.widths
  refine ⟨.assemble rowset.rows descriptors (compiled.plan.warnings.map PlanWarning.text), ?_,
    names, fun row member => ?_⟩
  · rw [conclude, Outcome.mapError_ok, Outcome.ok_bind, described, Outcome.mapError_ok,
      Outcome.ok_bind, shaped]
    rfl
  · show row.length = (descriptors.map ColumnDescriptor.name).length
    rw [List.length_map, width]
    exact tabulates.widths row member

/-- At an undisturbed site a run ends with what its store answers. -/
theorem result_of_asks (compiles : engine.compile request = .ok compiled) {site : Site}
    (undisturbed : site.Undisturbed engine.settings) {store : String} {refusal : Failure}
    {answer : Except Failure Rowset}
    (asks : compiled.backend.Asks compiled.plan store refusal answer) :
    (engine.run request none site).result = conclude compiled answer := by
  have noRefusals := undisturbed.refusals store
  have isOutcome :
      (site.store store).outcome engine.settings.maxRetries refusal answer = answer := by
    rw [StoreState.outcome, noRefusals, if_pos (Nat.zero_le _)]
  have timed : engine.Timed request compiled none site store refusal answer :=
    timed_of_asks compiles asks
  have uncancelled : ∀ cancel, none = some cancel →
      (site.store store).finish engine.settings.maxRetries engine.settings.retryBackoff <
        cancel := by
    intro cancel isCancel
    cases isCancel
  have ends := timed.finished uncancelled fun allowed isAllowed => by
    rw [StoreState.finish_eq_latency noRefusals]
    exact undisturbed.latency store allowed isAllowed
  rw [ends.result, isOutcome]

/-- A store of a sound dataset answers the plan of a request with a result of its shape. -/
theorem exists_asks_tabulates {dataset : Dataset} {stores : EmbeddedStores} {table : DatasetTable}
    {fields : List Field} (checked : dataset.check = .ok ())
    (embedded : dataset.embed = .ok stores) (sound : dataset.Sound)
    (isEmbedded : compiled.backend ∈ CommandLine.embeddedBackends stores)
    (arranged : compiled.plan.Arranged) (reads : compiled.plan.Reads dataset table fields)
    (computable : compiled.backend.name = CommandLine.tablesDriver →
      compiled.plan.Computable stores.database) :
    ∃ store refusal rowset, compiled.backend.Asks compiled.plan store refusal (.ok rowset) ∧
      compiled.plan.Tabulates compiled.backend.capabilities rowset := by
  obtain ⟨_, built, _⟩ := Dataset.embed_eq_ok embedded
  obtain ⟨backend, plan⟩ := compiled
  rcases List.mem_cons.mp isEmbedded with rfl | isDocuments
  · obtain ⟨typed, sums⟩ := computable rfl
    obtain ⟨rows, _, asks⟩ := reads.exists_asks sound checked built typed
    obtain ⟨rowset, answered, tabulates⟩ := arranged.exists_answer_tables asks sums
    exact ⟨_, _, rowset, Backend.asks_tables answered rfl, tabulates⟩
  · obtain rfl := List.mem_singleton.mp isDocuments
    obtain ⟨rowset, answered, tabulates⟩ := arranged.exists_answer_documents reads.joins
      (reads.addressed sound) reads.limit reads.offset stores.documents
    exact ⟨_, _, rowset, Backend.asks_documents answered rfl, tabulates⟩

/-- At an undisturbed site a request without foreign keys that compiles for a store of a sound
dataset is completed, with the columns of its plan and one value for each of them in every row. A
store of documents completes every such request, and a database those that it can compute. -/
theorem run_completes {dataset : Dataset} {stores : EmbeddedStores}
    (checked : dataset.check = .ok ()) (embedded : dataset.embed = .ok stores)
    (sound : dataset.Sound) (isEmbedded : compiled.backend ∈ CommandLine.embeddedBackends stores)
    (compiles : engine.compile request = .ok compiled) (isLocal : request.query.IsLocal)
    (inRange : request.query.InRange)
    (bounded : ∀ count, engine.settings.maxResultRows = some count → count < 2 ^ 64)
    (computable : compiled.backend.name = CommandLine.tablesDriver →
      compiled.plan.Computable stores.database)
    {site : Site} (undisturbed : site.Undisturbed engine.settings) :
    ∃ envelope, (engine.run request none site).result = .ok envelope ∧
      (engine.run request none site).stages = Stage.path ∧
      envelope.columns = compiled.plan.columns.map compiled.backend.capabilities.columnName ∧
      ∀ row ∈ envelope.rows, row.length = envelope.columns.length := by
  have isCatalog : compiled.backend.catalog = dataset.catalog := by
    rw [← (Dataset.embed_eq_ok embedded).1]
    rcases List.mem_cons.mp isEmbedded with same | isDocuments
    · rw [same]
      rfl
    · rw [List.mem_singleton.mp isDocuments]
      rfl
  have isPlan := plan_of_compile compiles
  rw [isCatalog] at isPlan
  obtain ⟨table, fields, reads⟩ := isLocal.exists_reads inRange bounded sound isPlan
  have arranged := (dataset.wellFormed_of_compile isPlan).arranged
  obtain ⟨store, refusal, rowset, asks, tabulates⟩ :=
    exists_asks_tabulates checked embedded sound isEmbedded arranged reads computable
  obtain ⟨descriptors, described⟩ := reads.exists_describe tabulates
  rw [← isCatalog] at described
  obtain ⟨envelope, concluded, names, widths⟩ := exists_conclude tabulates described
  have completed : (engine.run request none site).result = .ok envelope :=
    (result_of_asks compiles undisturbed asks).trans concluded
  have stages := engine.stages_run request none site
  rw [completed] at stages
  exact ⟨envelope, completed, stages, names, widths⟩

theorem products_sound : products.Sound := by
  refine ⟨by decide, fun table isTable => ?_⟩
  obtain rfl := List.mem_singleton.mp isTable
  refine ⟨List.cons_ne_nil _ _, by decide, by decide, ?_, ?_⟩
  · intro field isField isKey
    simp only [List.mem_cons, List.not_mem_nil, or_false] at isField
    rcases isField with rfl | rfl
    · exact .inl rfl
    · cases isKey
  · intro row isRow entry isEntry
    have isField := (List.of_mem_zip isEntry).1
    have isValue := (List.of_mem_zip isEntry).2
    have isInteger : entry.1.baseType = .integer := by
      simp only [List.mem_cons, List.not_mem_nil, or_false] at isField
      rcases isField with same | same <;> rw [same]
    refine ⟨fun isText => ?_, fun number isReal => ?_⟩
    · rw [isInteger] at isText
      exact isText.elim nofun nofun
    · rw [isReal] at isValue
      simp only [List.mem_cons, List.not_mem_nil, or_false] at isRow
      rcases isRow with rfl | rfl | rfl <;> simp at isValue

/-- An engine over stores whose database answers. -/
def overTables (stores : EmbeddedStores) : Engine Site :=
  { overStores stores with bindings := [(1, CommandLine.tablesDriver)] }

/-- Sums of prices for each product, by a database. -/
theorem cheapTotals_completes :
    ∃ stores compiled envelope, products.embed = .ok stores ∧
      (overTables stores).compile ⟨1, cheapTotals⟩ = .ok compiled ∧
      ((overTables stores).run ⟨1, cheapTotals⟩ none .initial).result = .ok envelope ∧
      ((overTables stores).run ⟨1, cheapTotals⟩ none .initial).stages = Stage.path ∧
      envelope.columns = compiled.plan.columns.map compiled.backend.capabilities.columnName ∧
      ∀ row ∈ envelope.rows, row.length = envelope.columns.length := by
  obtain ⟨stores, embedded⟩ : ∃ stores, products.embed = .ok stores := ⟨_, rfl⟩
  obtain ⟨sameCatalog, built, _⟩ := Dataset.embed_eq_ok embedded
  obtain ⟨plan, isPlan⟩ : ∃ plan, cheapTotals.compile products.catalog (.relational .upperCase) 1
      (some 2000) = .ok plan := ⟨_, rfl⟩
  have inRange : cheapTotals.InRange := ⟨cheapTotals_portable.limit, cheapTotals_portable.items⟩
  have bounded : ∀ count, some 2000 = some count → count < 2 ^ 64 := by
    intro count same
    obtain rfl := Option.some.inj same
    decide
  obtain ⟨table, fields, reads⟩ :=
    cheapTotals_portable.isLocal.exists_reads inRange bounded products_sound isPlan
  obtain rfl := List.mem_singleton.mp reads.described.isTable
  have computable : plan.Computable stores.database := by
    have typed : ∀ predicate ∈ plan.filter, predicate.Typed := by
      intro predicate isFilter
      cases isPlan
      cases isFilter
      exact .compare (.integer _ rfl)
    refine ⟨typed, reads.sumsFit products_sound rfl built typed fun kind field isSum _ => ?_⟩
    cases isPlan
    cases isSum
    decide
  have undisturbed : Site.Undisturbed .initial (overTables stores).settings :=
    ⟨fun store => rfl, fun store allowed _ => Nat.zero_le _⟩
  rw [← sameCatalog] at isPlan
  have compiles : (overTables stores).compile ⟨1, cheapTotals⟩ =
      .ok ⟨.tables CommandLine.tablesDriver .upperCase "database" stores.database stores.catalog,
        plan⟩ :=
    Outcome.bind_eq_ok.mpr ⟨_, rfl, Outcome.bind_eq_ok.mpr ⟨plan, isPlan, rfl⟩⟩
  obtain ⟨envelope, completed⟩ := run_completes rfl embedded products_sound List.mem_cons_self
    compiles cheapTotals_portable.isLocal inRange bounded (fun _ => computable) undisturbed
  exact ⟨stores, _, envelope, embedded, compiles, completed⟩

end Engine

end CrossQuery
