import CrossQuery.Proofs.Dataset.Reading
import CrossQuery.Proofs.Engine.Bounded
import CrossQuery.Proofs.Renaming.Documents

/-!
# Runs under new names

A request without foreign keys refers to fields by identifier. After a field of the dataset has
another name it is answered with the same rows, whichever store its database is bound to, unless the
store reads the names as something else.
-/

set_option autoImplicit false

namespace CrossQuery

open Outcome

def ColumnDescriptor.unnamed (descriptor : ColumnDescriptor) : ColumnDescriptor :=
  { descriptor with name := "" }

/-- An envelope without the names of its columns. -/
def Envelope.unnamed (envelope : Envelope) : Envelope :=
  { envelope with
    columns := []
    descriptors := envelope.descriptors.map ColumnDescriptor.unnamed }

namespace Renaming

variable {dataset : Dataset} {change : Renaming dataset} {plan : Plan}

section Descriptions

variable {capabilities : Capabilities}

theorem exists_name_rename (field : Field) : ∃ name, change.rename field = { field with name := name } := by
  unfold rename
  split
  · exact ⟨_, rfl⟩
  · exact ⟨field.name, rfl⟩

theorem mirrors_describedField (catalog : Catalog) (field : PlanField) :
    Mirrors change.rename (catalog.describedField field)
      ((catalog.mapFields change.rename).describedField (field.mapFields change.rename)) := by
  have sameId : (field.mapFields change.rename).field.id = field.field.id := rename_id
  rw [Catalog.describedField, Catalog.describedField, sameId, field_mapFields]
  cases catalog.field field.field.id with
  | error missing => exact .error
  | ok found => exact .ok rfl

/-- A column is described as before, but for its name. -/
theorem alike_describe_column (catalog : Catalog) (column : PlanColumn) :
    Alike (fun before after => after.unnamed = before.unnamed)
      (column.describe catalog capabilities)
      ((column.mapFields change.rename).describe (catalog.mapFields change.rename)
        capabilities) := by
  cases column with
  | field shown =>
      refine (mirrors_describedField catalog shown).bind fun found _ => .ok ?_
      obtain ⟨name, renamed⟩ := change.exists_name_rename found
      rw [renamed]
      rfl
  | aggregate kind source =>
      cases source with
      | none => exact .ok rfl
      | some source =>
          have found : Mirrors (Option.map change.rename)
              ((some source).mapM catalog.describedField)
              ((some (source.mapFields change.rename)).mapM
                (catalog.mapFields change.rename).describedField) := by
            rw [Option.mapM_some, Option.mapM_some]
            exact (mirrors_describedField catalog source).map fun value result same =>
              congrArg some same
          refine found.bind fun found _ => .ok ?_
          cases found with
          | none => rfl
          | some found =>
              obtain ⟨name, renamed⟩ := change.exists_name_rename found
              rw [Option.map_some, renamed]
              cases kind <;> rfl

theorem map_eq_map_of_forall₂ {α β : Type} {image : α → β} {items others : List α}
    (each : List.Forall₂ (fun item other => image other = image item) items others) :
    others.map image = items.map image := by
  induction each with
  | nil => rfl
  | cons same _ ih => rw [List.map_cons, List.map_cons, same, ih]

/-- What shows the rows of a plan is described as before, but for the names. -/
theorem alike_describe (catalog : Catalog) {answer result : Rowset} {rows : List (List Cell)}
    (shows : answer.Shows plan capabilities rows)
    (showsNew : result.Shows (plan.mapFields change.rename) capabilities rows) :
    Alike (fun before after =>
        after.map ColumnDescriptor.unnamed = before.map ColumnDescriptor.unnamed)
      (plan.describe answer.columns catalog capabilities)
      ((plan.mapFields change.rename).describe result.columns (catalog.mapFields change.rename)
        capabilities) := by
  have listed : List.Forall₂ (fun column other => other = column.mapFields change.rename)
      plan.columns (plan.mapFields change.rename).columns := by
    dsimp only [Plan.mapFields]
    rw [List.forall₂_map_right_iff, List.forall₂_same]
    exact fun column _ => rfl
  unfold Plan.describe
  rw [if_pos shows.names, if_pos showsNew.names]
  refine (Alike.mapM listed fun column other same => ?_).imp fun before after each =>
    map_eq_map_of_forall₂ each
  rw [same]
  exact alike_describe_column catalog column

end Descriptions

section Conclusions

variable {compiled other : Engine.Compiled Site} {before after : Except Failure Rowset}

/-- Outcomes that show the same rows are concluded alike, but for the names of columns. -/
theorem alike_conclude (samePlan : other.plan = compiled.plan.mapFields change.rename)
    (sameCatalog : other.backend.catalog = compiled.backend.catalog.mapFields change.rename)
    (sameCapabilities : other.backend.capabilities = compiled.backend.capabilities)
    (shown : Alike (fun answer result => ∃ rows,
      answer.Shows compiled.plan compiled.backend.capabilities rows ∧
        result.Shows (compiled.plan.mapFields change.rename) compiled.backend.capabilities rows)
      before after) :
    Alike (fun envelope result => Envelope.unnamed result = envelope.unnamed)
      (Engine.conclude compiled before) (Engine.conclude other after) := by
  unfold Engine.conclude
  rw [samePlan, sameCatalog, sameCapabilities]
  refine (shown.mapError _ _).bind fun answer result _ ⟨rows, shows, showsNew⟩ => ?_
  refine ((alike_describe compiled.backend.catalog shows showsNew).mapError _ _).bind
    fun descriptors newDescriptors _ same => ?_
  have width : newDescriptors.length = descriptors.length := by
    simpa using congrArg List.length same
  rw [shows.rows, showsNew.rows, width]
  refine (Mirrors.refl _).bind fun _ _ => .ok ?_
  simp only [Envelope.unnamed, Envelope.assemble, same]
  rfl

variable {relates : Rowset → Rowset → Prop}

/-- However an execution goes, it ends alike for answers that are alike. -/
theorem alike_ending (alike : Alike relates before after) (state : StoreState) (bounds : Bounds)
    (retries pause now : Nat) (refusal : Failure) :
    Alike relates (state.ending bounds retries pause now refusal before).outcome
      (state.ending bounds retries pause now refusal after).outcome := by
  unfold StoreState.ending
  split
  · exact .error
  · dsimp only [StoreState.outcome]
    split
    · exact alike
    · exact .error

end Conclusions

section Runs

variable {engine other : Engine Site} {request : Request} {backend newBackend : Backend Site}

/-- What two backends are asked for a plan and for its image, with answers that show the same
rows. -/
def AsksAlike (change : Renaming dataset) (backend newBackend : Backend Site) (plan : Plan) : Prop :=
  ∃ store refusal answer result, backend.Asks plan store refusal answer ∧
    newBackend.Asks (plan.mapFields change.rename) store refusal result ∧
    Alike (fun answer result => ∃ rows, answer.Shows plan backend.capabilities rows ∧
      result.Shows (plan.mapFields change.rename) backend.capabilities rows) answer result

/-- Runs over backends that are asked alike end alike. -/
theorem alike_run (change : Renaming dataset)
    (isBackend : engine.backendFor request.databaseId = .ok backend)
    (isOther : other.backendFor request.databaseId = .ok newBackend)
    (sameSettings : other.settings = engine.settings)
    (sameCapabilities : newBackend.capabilities = backend.capabilities)
    (isCatalog : backend.catalog = dataset.catalog)
    (newCatalog : newBackend.catalog = change.renamed.catalog)
    (asks : ∀ plan, request.query.compile dataset.catalog backend.capabilities request.databaseId
        engine.settings.maxResultRows = .ok plan →
      request.query.compile change.renamed.catalog backend.capabilities request.databaseId
        engine.settings.maxResultRows = .ok (plan.mapFields change.rename) →
      change.AsksAlike backend newBackend plan)
    (cancelAt : Option Nat) (site : Site) :
    Alike (fun envelope result => Envelope.unnamed result = envelope.unnamed)
      (engine.run request cancelAt site).result (other.run request cancelAt site).result := by
  have mirrored := change.mirrors_compile request.query dataset.catalog backend.capabilities
    request.databaseId engine.settings.maxResultRows
  rw [← change.catalog_renamed] at mirrored
  have compiles : engine.compile request =
      (request.query.compile dataset.catalog backend.capabilities request.databaseId
        engine.settings.maxResultRows >>= fun plan => .ok ⟨backend, plan⟩) := by
    rw [Engine.compile, isBackend, ok_bind, isCatalog]
    rfl
  have otherCompiles : other.compile request =
      (request.query.compile change.renamed.catalog backend.capabilities request.databaseId
        engine.settings.maxResultRows >>= fun plan => .ok ⟨newBackend, plan⟩) := by
    rw [Engine.compile, isOther, ok_bind, newCatalog, sameCapabilities, sameSettings]
    rfl
  cases compiled : request.query.compile dataset.catalog backend.capabilities request.databaseId
      engine.settings.maxResultRows with
  | error failure =>
      obtain ⟨otherFailure, notCompiled⟩ := mirrored.exists_error compiled
      rw [compiled] at compiles
      rw [notCompiled] at otherCompiles
      rw [Engine.run_of_not_compiled compiles, Engine.run_of_not_compiled otherCompiles]
      exact .error
  | ok plan =>
      have newCompiled := mirrored.eq_ok compiled
      rw [compiled, ok_bind] at compiles
      rw [newCompiled, ok_bind] at otherCompiles
      obtain ⟨store, refusal, answer, result, asked, newAsked, alike⟩ :=
        asks plan compiled newCompiled
      rw [(Engine.run_of_compiled compiles cancelAt site).1,
        (Engine.run_of_compiled otherCompiles cancelAt site).1]
      have isCatalogOf : newBackend.catalog = backend.catalog.mapFields change.rename := by
        rw [newCatalog, isCatalog, change.catalog_renamed]
      refine alike_conclude rfl isCatalogOf sameCapabilities ?_
      have ended : (engine.executePlan cancelAt ⟨backend, plan⟩ site).outcome = _ :=
        Engine.outcome_executePlan asked cancelAt site
      have otherEnded : (other.executePlan cancelAt
          ⟨newBackend, plan.mapFields change.rename⟩ site).outcome = _ :=
        Engine.outcome_executePlan newAsked cancelAt site
      rw [ended, otherEnded, sameSettings]
      exact alike_ending alike _ _ _ _ _ _

theorem KeepsColumns.asksAlike (keeps : change.KeepsColumns) {database newDatabase : Relational.Database}
    (built : dataset.database .upperCase = .ok database)
    (newBuilt : change.renamed.database .upperCase = .ok newDatabase)
    (others : ∀ name, name ≠ Naming.upperCase.spell change.table.name →
      newDatabase.table name = database.table name)
    (reads : plan.OfSource dataset.catalog) (expressible : plan.Expressible)
    (arranged : plan.Arranged) (newArranged : (plan.mapFields change.rename).Arranged)
    (driver : String) :
    change.AsksAlike (.tables driver .upperCase "database" database dataset.catalog)
      (.tables driver .upperCase "database" newDatabase change.renamed.catalog) plan := by
  have alike := keeps.answersAlike reads expressible built newBuilt others
  obtain ⟨answer, answered, final⟩ := database.exists_answerPlan arranged .upperCase
  obtain ⟨result, newAnswered, newFinal⟩ :=
    newDatabase.exists_answerPlan newArranged .upperCase
  rw [answered, newAnswered] at alike
  cases alike with
  | ok alike =>
      exact ⟨_, _, answer, result, Backend.asks_tables answered final,
        Backend.asks_tables newAnswered newFinal, alike⟩

theorem KeepsKeys.asksAlike (keeps : change.KeepsKeys) (reads : plan.OfSource dataset.catalog)
    {query : Query} {databaseId : Int}
    (wellFormed : plan.WellFormed dataset.catalog .document databaseId query)
    (newWellFormed : (plan.mapFields change.rename).WellFormed change.renamed.catalog .document
      databaseId query) (driver : String) :
    change.AsksAlike (.documents driver "documents" dataset.documents dataset.catalog)
      (.documents driver "documents" change.renamed.documents change.renamed.catalog) plan := by
  have alike := keeps.answersAlike reads
  have noJoins := wellFormed.unsupported rfl
  have noNew := newWellFormed.unsupported rfl
  obtain ⟨answer, answered, final⟩ := dataset.documents.exists_answerPlan wellFormed.arranged
    noJoins fun field member => (wellFormed.reaches field member).isJoined_eq_false noJoins
  obtain ⟨result, newAnswered, newFinal⟩ :=
    change.renamed.documents.exists_answerPlan newWellFormed.arranged noNew
      fun field member => (newWellFormed.reaches field member).isJoined_eq_false noNew
  rw [answered, newAnswered] at alike
  cases alike with
  | ok alike =>
      exact ⟨_, _, answer, result, Backend.asks_documents answered final,
        Backend.asks_documents newAnswered newFinal, alike⟩

end Runs

end Renaming

/-- An engine over the stores of a dataset. -/
def EmbeddedStores.engine (stores : EmbeddedStores) (bindings : List (Int × String))
    (settings : EngineSettings) : Engine Site :=
  ⟨CommandLine.embeddedBackends stores, bindings, settings⟩

namespace EmbeddedStores

variable (stores : EmbeddedStores) (settings : EngineSettings) {bindings : List (Int × String)}
  {databaseId : Int} {driver : String}

theorem backendFor_of_unbound (unbound : bindings.lookup databaseId = none) :
    ∃ failure, (stores.engine bindings settings).backendFor databaseId = .error failure := by
  refine ⟨.unknownReference .database (Catalog.idText databaseId), ?_⟩
  rw [Engine.backendFor, engine, unbound]

theorem backendFor_tables (bound : bindings.lookup databaseId = some CommandLine.tablesDriver) :
    (stores.engine bindings settings).backendFor databaseId =
      .ok (.tables CommandLine.tablesDriver .upperCase "database" stores.database
        stores.catalog) := by
  rw [Engine.backendFor, engine, bound]
  rfl

theorem backendFor_documents
    (bound : bindings.lookup databaseId = some CommandLine.documentsDriver) :
    (stores.engine bindings settings).backendFor databaseId =
      .ok (.documents CommandLine.documentsDriver "documents" stores.documents
        stores.catalog) := by
  rw [Engine.backendFor, engine, bound]
  rfl

theorem backendFor_of_other (bound : bindings.lookup databaseId = some driver)
    (notTables : driver ≠ CommandLine.tablesDriver)
    (notDocuments : driver ≠ CommandLine.documentsDriver) :
    ∃ failure, (stores.engine bindings settings).backendFor databaseId = .error failure := by
  refine ⟨.unknownReference .driver driver, ?_⟩
  have noTables : (CommandLine.tablesDriver == driver) = false := by simpa using notTables.symm
  have noDocuments : (CommandLine.documentsDriver == driver) = false := by
    simpa using notDocuments.symm
  rw [Engine.backendFor, engine, bound]
  simp [Backend.find, CommandLine.embeddedBackends, Backend.tables, Backend.documents, noTables,
    noDocuments]

end EmbeddedStores

/-- Requests for databases without a backend fail over any stores. -/
theorem Engine.alike_run_of_noBackend {engine other : Engine Site} {request : Request}
    {relates : Envelope → Envelope → Prop}
    (noBackend : ∃ failure, engine.backendFor request.databaseId = .error failure)
    (noOther : ∃ failure, other.backendFor request.databaseId = .error failure)
    (cancelAt : Option Nat) (site : Site) :
    Alike relates (engine.run request cancelAt site).result
      (other.run request cancelAt site).result := by
  obtain ⟨failure, noBackend⟩ := noBackend
  obtain ⟨otherFailure, noOther⟩ := noOther
  have failed : engine.compile request = .error failure := by
    rw [compile, noBackend]
    rfl
  have otherFailed : other.compile request = .error otherFailure := by
    rw [compile, noOther]
    rfl
  rw [run_of_not_compiled failed, run_of_not_compiled otherFailed]
  exact .error

/-- A request that names fields by identifier and without foreign keys, with numbers of the ranges
that requests have. -/
structure Request.ById (request : Request) : Prop where
  isLocal : request.query.IsLocal
  inRange : request.query.InRange
  finite : request.query.IsFinite

namespace Renaming

variable {dataset : Dataset}

/-- A change of which the store behind a driver makes nothing else than a change of names. -/
structure KeptBy (change : Renaming dataset) (driver : String) : Prop where
  tables : driver = CommandLine.tablesDriver → change.KeepsColumns
  documents : driver = CommandLine.documentsDriver → change.KeepsKeys

/-- A dataset in which a field has another name is accepted and fills its stores as before, and every
request is answered with the same rows and descriptions, but for the names of columns, or fails as
before, if the store that answers it takes the names for nothing but names. -/
theorem run_renamed (change : Renaming dataset) {stores : EmbeddedStores}
    (checked : dataset.check = .ok ()) (embedded : dataset.embed = .ok stores) :
    change.renamed.check = .ok () ∧ ∃ newStores, change.renamed.embed = .ok newStores ∧
      ∀ (bindings : List (Int × String)) (settings : EngineSettings) (request : Request)
        (cancelAt : Option Nat) (site : Site),
        request.ById → (∀ count, settings.maxResultRows = some count → count < 2 ^ 64) →
        (∀ driver, bindings.lookup request.databaseId = some driver → change.KeptBy driver) →
        Alike (fun envelope result => Envelope.unnamed result = envelope.unnamed)
          ((stores.engine bindings settings).run request cancelAt site).result
          ((newStores.engine bindings settings).run request cancelAt site).result := by
  obtain ⟨database, built, isStores⟩ := bind_eq_ok.mp embedded
  cases isStores
  obtain ⟨newDatabase, newBuilt, others⟩ := change.exists_database built
  refine ⟨check_renamed checked, ⟨change.renamed.catalog, newDatabase, change.renamed.documents⟩,
    bind_eq_ok.mpr ⟨newDatabase, newBuilt, rfl⟩, ?_⟩
  intro bindings settings request cancelAt site byId bounded kept
  let before : EmbeddedStores := ⟨dataset.catalog, database, dataset.documents⟩
  let after : EmbeddedStores :=
    ⟨change.renamed.catalog, newDatabase, change.renamed.documents⟩
  cases isBound : bindings.lookup request.databaseId with
  | none =>
      exact Engine.alike_run_of_noBackend (before.backendFor_of_unbound settings isBound)
        (after.backendFor_of_unbound settings isBound) cancelAt site
  | some driver =>
      have keptBy := kept driver isBound
      by_cases isTables : driver = CommandLine.tablesDriver
      · subst isTables
        have isBackend := before.backendFor_tables settings isBound
        have isOther := after.backendFor_tables settings isBound
        refine change.alike_run isBackend isOther rfl rfl rfl rfl ?_ cancelAt site
        intro plan compiled newCompiled
        have window := byId.inRange.window_of_compile bounded compiled
        have reads := byId.isLocal.ofSource compiled
        exact (keptBy.tables rfl).asksAlike built newBuilt others reads
          ⟨reads.joins, byId.finite.expresses compiled, window.1, window.2⟩
          (dataset.wellFormed_of_compile compiled).arranged
          (change.renamed.wellFormed_of_compile newCompiled).arranged _
      · by_cases isDocuments : driver = CommandLine.documentsDriver
        · subst isDocuments
          have isBackend := before.backendFor_documents settings isBound
          have isOther := after.backendFor_documents settings isBound
          refine change.alike_run isBackend isOther rfl rfl rfl rfl ?_ cancelAt site
          intro plan compiled newCompiled
          exact (keptBy.documents rfl).asksAlike (byId.isLocal.ofSource compiled)
            (dataset.wellFormed_of_compile compiled)
            (change.renamed.wellFormed_of_compile newCompiled) _
        · exact Engine.alike_run_of_noBackend
            (before.backendFor_of_other settings isBound isTables isDocuments)
            (after.backendFor_of_other settings isBound isTables isDocuments) cancelAt site

/-- The prices of products under another name. -/
def ofPrice (name : String) (notIdentifier : name ≠ "_id")
    (apart : Naming.upperCase.spell name ≠ Naming.upperCase.spell "id") : Renaming products where
  before := []
  table := ⟨"products", none,
    [⟨"id", .integer, some .id, none, none⟩, ⟨"price", .integer, none, none, none⟩],
    [[.whole 1, .whole 5], [.whole 2, .null], [.whole 3, .whole 2]]⟩
  later := []
  tables := rfl
  left := [⟨"id", .integer, some .id, none, none⟩]
  field := ⟨"price", .integer, none, none, none⟩
  right := []
  fields := rfl
  notKey := rfl
  name := name
  notIdentifier := notIdentifier
  apart other isOther := by
    rw [List.mem_singleton.mp isOther]
    exact apart

def toCost : Renaming products :=
  ofPrice "cost" (by decide) (by decide +kernel)

theorem toCost_keptBy (driver : String) : toCost.KeptBy driver := by
  refine ⟨fun _ => ⟨?_, ?_⟩, fun _ => ⟨?_, ?_, ?_⟩⟩
  · exact fun other isOther => absurd isOther List.not_mem_nil
  · intro other isOther
    rw [List.mem_singleton.mp isOther]
    decide +kernel
  · exact fun other isOther => absurd isOther List.not_mem_nil
  · intro own isOwn
    rcases List.mem_pair.mp isOwn with rfl | rfl
    · exact ⟨⟨by decide, by decide⟩, by decide, by decide⟩
    · exact ⟨⟨by decide, by decide⟩, by decide, by decide⟩
  · intro other isOther own isOwn
    rw [List.mem_singleton.mp isOther]
    rcases List.mem_pair.mp isOwn with rfl | rfl <;> decide

theorem cheapProducts_byId : Request.ById ⟨1, cheapProducts⟩ where
  isLocal := cheapProducts_portable.isLocal
  inRange := ⟨cheapProducts_portable.limit, cheapProducts_portable.items⟩
  finite := by
    intro filter isFilter value isValue
    cases isFilter
    rw [List.mem_singleton.mp isValue]
    exact ⟨(fun _ same => by cases same), fun _ same => by cases same⟩

/-- Limits under which the products are queried. -/
def unhurried : EngineSettings :=
  ⟨none, 0, 0, some 2000⟩

/-- Cheap products are the same under another name of their price, for both stores. -/
theorem cheapProducts_by_cost :
    ∃ stores newStores, products.embed = .ok stores ∧ toCost.renamed.embed = .ok newStores ∧
      Alike (fun envelope result => Envelope.unnamed result = envelope.unnamed)
        ((stores.engine [(1, CommandLine.tablesDriver)] unhurried).run ⟨1, cheapProducts⟩ none
          .initial).result
        ((newStores.engine [(1, CommandLine.tablesDriver)] unhurried).run ⟨1, cheapProducts⟩ none
          .initial).result ∧
      Alike (fun envelope result => Envelope.unnamed result = envelope.unnamed)
        ((stores.engine [(1, CommandLine.documentsDriver)] unhurried).run ⟨1, cheapProducts⟩ none
          .initial).result
        ((newStores.engine [(1, CommandLine.documentsDriver)] unhurried).run ⟨1, cheapProducts⟩ none
          .initial).result ∧
      ((stores.engine [(1, CommandLine.tablesDriver)] unhurried).run ⟨1, cheapProducts⟩ none
        .initial).result.toOption.map Envelope.rowCount = some 1 ∧
      ((stores.engine [(1, CommandLine.documentsDriver)] unhurried).run ⟨1, cheapProducts⟩ none
        .initial).result.toOption.map Envelope.rowCount = some 1 := by
  obtain ⟨stores, embedded, inTables, inDocuments⟩ : ∃ stores, products.embed = .ok stores ∧
      ((stores.engine [(1, CommandLine.tablesDriver)] unhurried).run ⟨1, cheapProducts⟩ none
        .initial).result.toOption.map Envelope.rowCount = some 1 ∧
      ((stores.engine [(1, CommandLine.documentsDriver)] unhurried).run ⟨1, cheapProducts⟩ none
        .initial).result.toOption.map Envelope.rowCount = some 1 :=
    ⟨_, rfl, by decide +kernel, by decide +kernel⟩
  obtain ⟨_, newStores, newEmbedded, alike⟩ := run_renamed toCost rfl embedded
  have bounded : ∀ count, unhurried.maxResultRows = some count → count < 2 ^ 64 := by
    intro count same
    obtain rfl := Option.some.inj same
    decide
  exact ⟨stores, newStores, embedded, newEmbedded,
    alike _ _ _ _ _ cheapProducts_byId bounded fun driver _ => toCost_keptBy driver,
    alike _ _ _ _ _ cheapProducts_byId bounded fun driver _ => toCost_keptBy driver,
    inTables, inDocuments⟩

def toUnitPrice : Renaming products :=
  ofPrice "unit.price" (by decide) (by decide +kernel)

/-- Under a name that reads as a path, no product has a price. -/
theorem cheapProducts_by_unitPrice :
    ∃ stores newStores, products.embed = .ok stores ∧ toUnitPrice.renamed.embed = .ok newStores ∧
      ¬ Alike (fun envelope result => Envelope.unnamed result = envelope.unnamed)
        ((stores.engine [(1, CommandLine.documentsDriver)] unhurried).run ⟨1, cheapProducts⟩ none
          .initial).result
        ((newStores.engine [(1, CommandLine.documentsDriver)] unhurried).run ⟨1, cheapProducts⟩ none
          .initial).result := by
  have rowCounts {before after : Except StageFailure Envelope}
      (alike : Alike (fun envelope result => Envelope.unnamed result = envelope.unnamed) before
        after) :
      (after.toOption.map fun envelope => envelope.rows.length) =
        before.toOption.map fun envelope => envelope.rows.length := by
    cases alike with
    | ok same =>
        have sameRows := congrArg Envelope.rows same
        exact congrArg (fun rows => some (List.length rows)) sameRows
    | error => rfl
  refine ⟨_, _, rfl, rfl, fun alike => ?_⟩
  exact absurd (rowCounts alike) (by decide +kernel)

end Renaming

end CrossQuery
