import CrossQuery.Engine.Store
import CrossQuery.Proofs.Dataset.Keyed
import CrossQuery.Proofs.Plan.Pages
import CrossQuery.Proofs.Sorting

/-!
# Contiguous pages

Where every window of a plan cuts one list, in whatever order the rows of a table are stored, pages
that are answered by different stores are contiguous.
-/

set_option autoImplicit false

namespace CrossQuery

open Collection

/-- A store of documents answers a plan by way of a pipeline. -/
theorem Collection.Store.answerPlan_eq_ok_iff {store : Store} {plan : Plan} {answer : Rowset} :
    store.answerPlan plan = .ok (.ok answer) ↔
      ∃ pipeline keys documents, pipelineOfPlan plan = .ok pipeline ∧
        plan.columns.mapM outputKey = .ok keys ∧
        store.aggregate pipeline.collection pipeline.stages = .ok documents ∧
        rowsetOfDocuments plan keys (plan.columns.map Capabilities.document.columnName) documents =
          answer := by
  constructor
  · intro answered
    obtain ⟨pipeline, written, answered⟩ := Outcome.bind_eq_ok.mp answered
    obtain ⟨keys, isKeys, answered⟩ := Outcome.bind_eq_ok.mp answered
    obtain ⟨documents, aggregated, same⟩ := Outcome.map_eq_ok.mp (Except.ok.inj answered)
    refine ⟨pipeline, keys, documents, written, isKeys, ?_, same⟩
    cases run : store.aggregate pipeline.collection pipeline.stages with
    | error refusal =>
        rw [run] at aggregated
        cases aggregated
    | ok found =>
        rw [run] at aggregated
        exact congrArg Except.ok (Except.ok.inj aggregated)
  · rintro ⟨pipeline, keys, documents, written, isKeys, aggregated, rfl⟩
    refine Outcome.bind_eq_ok.mpr ⟨pipeline, written, Outcome.bind_eq_ok.mpr ⟨keys, isKeys, ?_⟩⟩
    rw [aggregated]
    rfl

/-- A kind of stores: what they are capable of, when they hold the given rows of a table in their
order, and which rows they answer a plan with. -/
structure StoreKind (σ : Type) where
  capabilities : Capabilities
  Holds : σ → DatasetTable → List (List Json) → Prop
  Answers : σ → Plan → List (List Cell) → Prop

namespace StoreKind

/-- Databases, with names in upper case. -/
def tables : StoreKind Relational.Database where
  capabilities := .relational .upperCase
  Holds database table rows := ∃ cells, rows.mapM table.cells = .ok cells ∧
    database.table (Naming.upperCase.spell table.name) = .ok ⟨table.columns .upperCase, cells⟩
  Answers database plan rows := ∃ statement answer,
    Relational.statementOfPlan .upperCase plan = .ok statement ∧
      database.answer statement = .ok answer ∧ answer.rows = rows

/-- Stores of documents. -/
def documents : StoreKind Store where
  capabilities := .document
  Holds store table rows := store.documents table.name = rows.map table.document
  Answers store plan rows := ∃ answer, store.answerPlan plan = .ok (.ok answer) ∧
    answer.rows = rows

/-- Both stores that are filled with a dataset hold each of its tables, if the names of these differ
in upper case. -/
theorem holds_of_embed {dataset : Dataset} {stores : EmbeddedStores} {table : DatasetTable}
    (names : (dataset.tables.map fun table => Naming.upperCase.spell table.name).Nodup)
    (embedded : dataset.embed = .ok stores) (isTable : table ∈ dataset.tables) :
    tables.Holds stores.database table table.rows ∧
      documents.Holds stores.documents table table.rows := by
  obtain ⟨_, built, sameDocuments⟩ := Dataset.embed_eq_ok embedded
  refine ⟨Dataset.table_database names built isTable, ?_⟩
  have stored := Dataset.documents_eq (Dataset.nodup_tableNames names) isTable
  rw [← sameDocuments] at stored
  exact stored

variable {σ : Type}

/-- A store answers a query with rows. -/
def Responds (kind : StoreKind σ) (catalog : Catalog) (databaseId : Int) (store : σ)
    (query : Query) (maxRows : Option Nat) (rows : List (List Cell)) : Prop :=
  ∃ plan, query.compile catalog kind.capabilities databaseId maxRows = .ok plan ∧
    kind.Answers store plan rows

/-- The pages of a query are contiguous: whatever stores hold the rows of a table, each in an order
of its own, the pages that they answer with make up the front of the whole answer. -/
def Contiguous (kind : StoreKind σ) (catalog : Catalog) (databaseId : Int) (table : DatasetTable)
    (query : Query) (items count : Nat) : Prop :=
  ∀ (original : σ) (whole : List (List Cell)), kind.Holds original table table.rows →
    kind.Responds catalog databaseId original query.unpaged none whole →
    ∀ (stores : Nat → σ) (arranged : Nat → List (List Json)) (maxRows : Option Nat),
      (∀ number < count, (arranged number).Perm table.rows ∧
        kind.Holds (stores number) table (arranged number)) →
      ∃ pages : Nat → List (List Cell),
        (∀ number < count, kind.Responds catalog databaseId (stores number)
          (query.atPage items (number + 1)) maxRows (pages number)) ∧
        (List.range count).flatMap pages = whole.take (items * count)

/-- However the rows of a table are arranged, every window of a plan cuts the same list. -/
def Lists (kind : StoreKind σ) (table : DatasetTable) (plan : Plan) : Prop :=
  ∃ listed : List (List Cell), ∀ (store : σ) (arranged : List (List Json))
    (offset limit : Option Nat), (∀ count, offset = some count → count < 2 ^ 64) →
    (∀ count, limit = some count → count < 2 ^ 64) → arranged.Perm table.rows →
    kind.Holds store table arranged →
    kind.Answers store (plan.cut offset limit) (Relational.window offset limit listed)

theorem Lists.responds {kind : StoreKind σ} {catalog : Catalog} {databaseId : Int}
    {table : DatasetTable} {query : Query} {plan : Plan} {store : σ} (lists : kind.Lists table plan)
    (unlimited : plan = plan.cut none none)
    (compiled : query.compile catalog kind.capabilities databaseId none = .ok plan)
    (held : kind.Holds store table table.rows) :
    ∃ whole, kind.Responds catalog databaseId store query none whole := by
  obtain ⟨listed, listing⟩ := lists
  have noCount : ∀ count : Nat, none = some count → count < 2 ^ 64 := by
    intro count same
    cases same
  have answered := listing store table.rows none none noCount noCount (List.Perm.refl _) held
  rw [← unlimited] at answered
  exact ⟨_, plan, compiled, answered⟩

/-- A plan is answered with the same rows whenever it is. -/
def Determined (kind : StoreKind σ) : Prop :=
  ∀ store plan left right, kind.Answers store plan left → kind.Answers store plan right →
    left = right

theorem determined_tables : tables.Determined := by
  rintro database plan _ _ ⟨statement, answer, written, answered, rfl⟩
    ⟨other, otherAnswer, otherWritten, otherAnswered, rfl⟩
  obtain rfl := Except.ok.inj (written.symm.trans otherWritten)
  obtain rfl := Except.ok.inj (answered.symm.trans otherAnswered)
  rfl

theorem determined_documents : documents.Determined := by
  rintro store plan _ _ ⟨answer, answered, rfl⟩ ⟨other, otherAnswered, rfl⟩
  obtain rfl := Except.ok.inj (Except.ok.inj (answered.symm.trans otherAnswered))
  rfl

end StoreKind

section Windows

theorem getD_offsetOf (skip : Nat) : (offsetOf skip).getD 0 = skip := by
  unfold offsetOf
  split
  · rfl
  · next notPositive => exact (Nat.eq_zero_of_not_pos notPositive).symm

theorem eq_of_offsetOf {skip offset : Nat} (isOffset : offsetOf skip = some offset) :
    offset = skip := by
  have same := getD_offsetOf skip
  rwa [isOffset] at same

end Windows

section Contiguity

variable {dataset : Dataset} {source : Table} {table : DatasetTable} {fields : List Field}
  {query : Query} {plan : Plan} {key : Field} {databaseId : Int} {items count : Nat}

/-- The pages of a query are contiguous where every window of its plan cuts the same list. -/
theorem StoreKind.contiguous_of_lists {σ : Type} {kind : StoreKind σ}
    (determined : kind.Determined) (isLocal : query.IsLocal) (isRows : query.aggregation = .rows)
    (ordered : query.orderBy ≠ [])
    (isSource : dataset.catalog.table query.sourceTable = .ok source)
    (isPrimary : dataset.catalog.primaryKey source.id = .ok (some key)) (someItems : 0 < items)
    (narrow : items ≤ offsetBound) (noOverflow : (count - 1) * items ≤ offsetBound)
    (lists : ∀ plan original whole, plan.Sorts dataset.catalog source key query →
      kind.Holds original table table.rows → kind.Answers original plan whole →
      kind.Lists table plan) :
    kind.Contiguous dataset.catalog databaseId table query items count := by
  intro original whole held responded stores arranged maxRows eachHeld
  obtain ⟨plan, compiled, answered⟩ := responded
  have sorts := isLocal.sorts isRows ordered dataset.listsOwn_catalog isSource isPrimary compiled
  obtain ⟨listed, listing⟩ := lists plan original whole sorts held answered
  have noCount : ∀ count : Nat, none = some count → count < 2 ^ 64 := by
    intro count same
    cases same
  have isWhole : whole = listed := by
    have unlimited := listing original table.rows none none noCount noCount (List.Perm.refl _) held
    rw [← sorts.unlimited] at unlimited
    exact determined original plan whole listed answered unlimited
  have someOrder : plan.orderBy ≠ [] := by
    obtain ⟨order, member, _⟩ := sorts.decided
    exact List.ne_nil_of_mem member
  refine ⟨fun number => (listed.drop (number * items)).take items, fun number isPage => ?_, ?_⟩
  · obtain ⟨perm, isHeld⟩ := eachHeld number isPage
    have fits : number * items ≤ offsetBound :=
      Nat.le_trans (Nat.mul_le_mul_right items (Nat.le_sub_one_of_lt isPage)) noOverflow
    have skips := Page.skip_eq someItems fits
    have answers := listing (stores number) (arranged number) (offsetOf (number * items))
      (some items)
      (fun offset isOffset => by rw [eq_of_offsetOf isOffset]; exact Nat.lt_succ_of_le fits)
      (fun limit isLimit => by cases isLimit; exact Nat.lt_succ_of_le narrow) perm isHeld
    rw [Relational.window, getD_offsetOf] at answers
    exact ⟨_, Query.compile_atPage maxRows skips compiled someOrder, answers⟩
  · rw [isWhole]
    exact Sorting.flatMap_pages listed items count

end Contiguity

end CrossQuery
