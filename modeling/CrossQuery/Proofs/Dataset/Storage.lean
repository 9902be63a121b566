import CrossQuery.Dataset.Stores
import CrossQuery.Proofs.Outcome
import Mathlib.Algebra.Order.Ring.Nat

/-!
# What stores hold of a dataset

A database holds each table of a dataset under the spelling of its name, and a store of documents
each collection, as long as no two names are spelled alike. Later tables leave earlier ones alone.
-/

set_option autoImplicit false

namespace CrossQuery

section Lookup

variable {α : Type}

theorem lookup_map_if (name other : String) (change : α → α) (entries : List (String × α)) :
    (entries.map fun entry => if entry.1 = name then (name, change entry.2) else entry).lookup
        other =
      if other = name then (entries.lookup name).map change else entries.lookup other := by
  induction entries with
  | nil => simp
  | cons entry rest ih =>
      obtain ⟨key, value⟩ := entry
      simp only [List.map_cons]
      by_cases found : key = name
      · subst found
        by_cases same : other = key
        · simp [same]
        · have differs : (other == key) = false := by simpa using same
          simp [List.lookup_cons, differs, ih, same]
      · by_cases same : other = name
        · have differs : (name == key) = false := by simpa using Ne.symm found
          subst same
          simp [found, List.lookup_cons, differs, ih]
        · simp only [found, if_false, List.lookup_cons, ih, same]

theorem lookup_append (name : String) (entries others : List (String × α)) :
    (entries ++ others).lookup name = (entries.lookup name).or (others.lookup name) := by
  induction entries with
  | nil => simp
  | cons entry rest ih =>
      obtain ⟨key, value⟩ := entry
      cases same : name == key <;> simp [List.lookup_cons, same, ih]

theorem lookup_filter_ne (name other : String) (entries : List (String × α)) :
    (entries.filter fun entry => entry.1 != name).lookup other =
      if other = name then none else entries.lookup other := by
  induction entries with
  | nil => simp
  | cons entry rest ih =>
      obtain ⟨key, value⟩ := entry
      by_cases found : key = name
      · subst found
        by_cases same : other = key
        · simp [same] at ih ⊢
          exact ih
        · have differs : (other == key) = false := by simpa using same
          simp [List.lookup_cons, differs, ih, same]
      · by_cases same : other = name
        · have differs : (name == key) = false := by simpa using Ne.symm found
          subst same
          simp [found, List.lookup_cons, differs] at ih ⊢
          exact ih
        · simp [found, List.lookup_cons, ih, same]

end Lookup

namespace Relational.Database

variable {database after : Database} {name : String}

theorem lookup_createTable (database : Database) (name other : String) (columns : List Column) :
    (database.createTable name columns).tables.lookup other =
      if other = name then some ⟨columns, []⟩ else database.tables.lookup other := by
  rw [createTable, lookup_append, lookup_filter_ne]
  by_cases same : other = name
  · simp [same]
  · have differs : (other == name) = false := by simpa using same
    simp [same, List.lookup_cons, differs]

theorem table_eq_ok_iff {table : Rowset} :
    database.table name = .ok table ↔ database.tables.lookup name = some table := by
  unfold Database.table
  cases database.tables.lookup name <;> simp

theorem lookup_insert {row : List Cell} (inserted : database.insert name row = .ok after) :
    ∃ table, database.tables.lookup name = some table ∧
      row.length = table.columns.length ∧
      ∀ other, after.tables.lookup other =
        if other = name then some ⟨table.columns, table.rows ++ [row]⟩
        else database.tables.lookup other := by
  obtain ⟨table, found, stored⟩ := Outcome.bind_eq_ok.mp inserted
  rw [table_eq_ok_iff] at found
  split at stored
  · next fits =>
      cases stored
      refine ⟨table, found, fits, fun other => ?_⟩
      have step := lookup_map_if name other
        (fun held : Rowset => (⟨held.columns, held.rows ++ [row]⟩ : Rowset)) database.tables
      rw [found] at step
      exact step
  · cases stored

/-- Rows that are added to a table come behind those that it has, and other tables stay. -/
theorem lookup_insertAll {rows : List (List Cell)} {table : Rowset}
    (found : database.tables.lookup name = some table)
    (inserted : database.insertAll name rows = .ok after) :
    (∀ row ∈ rows, row.length = table.columns.length) ∧
      ∀ other, after.tables.lookup other =
        if other = name then some ⟨table.columns, table.rows ++ rows⟩
        else database.tables.lookup other := by
  induction rows generalizing database table with
  | nil =>
      cases inserted
      refine ⟨fun row member => absurd member List.not_mem_nil, fun other => ?_⟩
      by_cases same : other = name
      · simp [same, found]
      · simp [same]
  | cons row rest ih =>
      obtain ⟨middle, first, others⟩ := Outcome.bind_eq_ok.mp inserted
      obtain ⟨same, isTable, fits, lookups⟩ := lookup_insert first
      obtain rfl : table = same := Option.some.inj (found.symm.trans isTable)
      have middleFound := lookups name
      rw [if_pos rfl] at middleFound
      obtain ⟨widths, restLookups⟩ := ih middleFound others
      refine ⟨?_, fun other => ?_⟩
      · intro item member
        rcases List.mem_cons.mp member with rfl | later
        · exact fits
        · exact widths item later
      · rw [restLookups, lookups]
        by_cases same : other = name <;> simp [same]

end Relational.Database

namespace Collection.Store

theorem documents_insert (store : Store) (name other : String) (document : Document) :
    (store.insert name document).documents other =
      if other = name then store.documents name ++ [document] else store.documents other := by
  unfold insert documents
  cases found : store.collections.lookup name with
  | some held =>
      simp only [Option.isSome_some, if_true]
      rw [lookup_map_if name other fun held => held ++ [document], found]
      by_cases same : other = name <;> simp [same]
  | none =>
      simp only [Option.isSome_none, Bool.false_eq_true, if_false]
      rw [lookup_append]
      by_cases same : other = name
      · simp [same, found]
      · have differs : (other == name) = false := by simpa using same
        simp [same, List.lookup_cons, differs]

theorem documents_insertAll (store : Store) (name other : String) (added : List Document) :
    (store.insertAll name added).documents other =
      if other = name then store.documents name ++ added else store.documents other := by
  induction added generalizing store with
  | nil => by_cases same : other = name <;> simp [insertAll, same]
  | cons document rest ih =>
      have step := ih (store.insert name document)
      rw [documents_insert, documents_insert] at step
      rw [insertAll, List.foldl_cons, ← insertAll, step]
      by_cases same : other = name <;> simp [same]

end Collection.Store

namespace Dataset

open Relational

/-- A table that is added to a database is there with its rows, and other tables stay. -/
theorem lookup_addTable {naming : Naming} {database after : Database} {table : DatasetTable}
    (added : addTable naming database table = .ok after) :
    ∃ rows, table.rows.mapM table.cells = .ok rows ∧
      ∀ other, after.tables.lookup other =
        if other = naming.spell table.name then some ⟨table.columns naming, rows⟩
        else database.tables.lookup other := by
  obtain ⟨rows, converted, inserted⟩ := Outcome.bind_eq_ok.mp added
  refine ⟨rows, converted, ?_⟩
  cases outcome : (database.createTable (naming.spell table.name)
      (table.columns naming)).insertAll (naming.spell table.name) rows with
  | error refusal =>
      rw [outcome] at inserted
      cases inserted
  | ok filled =>
      rw [outcome] at inserted
      cases inserted
      have created := Database.lookup_createTable database (naming.spell table.name)
        (naming.spell table.name) (table.columns naming)
      rw [if_pos rfl] at created
      obtain ⟨_, lookups⟩ := Database.lookup_insertAll created outcome
      intro other
      rw [lookups, Database.lookup_createTable]
      by_cases same : other = naming.spell table.name <;> simp [same]

/-- Tables whose names are spelled apart are all there once they have been added. -/
theorem lookup_foldlM_addTable {naming : Naming} {tables : List DatasetTable}
    {database after : Database}
    (distinct : (tables.map fun table => naming.spell table.name).Nodup)
    (added : tables.foldlM (addTable naming) database = .ok after) :
    (∀ table ∈ tables, ∃ rows, table.rows.mapM table.cells = .ok rows ∧
      after.tables.lookup (naming.spell table.name) = some ⟨table.columns naming, rows⟩) ∧
      ∀ other, (∀ table ∈ tables, other ≠ naming.spell table.name) →
        after.tables.lookup other = database.tables.lookup other := by
  induction tables generalizing database with
  | nil =>
      cases added
      exact ⟨fun table member => absurd member List.not_mem_nil, fun _ _ => rfl⟩
  | cons first rest ih =>
      rw [List.map_cons, List.nodup_cons] at distinct
      obtain ⟨middle, step, others⟩ := Outcome.bind_eq_ok.mp added
      obtain ⟨rows, converted, lookups⟩ := lookup_addTable step
      obtain ⟨held, kept⟩ := ih distinct.2 others
      refine ⟨?_, ?_⟩
      · intro table member
        rcases List.mem_cons.mp member with rfl | later
        · have apart : ∀ other ∈ rest, naming.spell table.name ≠ naming.spell other.name :=
            fun other isLater same => distinct.1 (same ▸ List.mem_map_of_mem isLater)
          exact ⟨rows, converted, by rw [kept _ apart, lookups, if_pos rfl]⟩
        · exact held table later
      · intro other apart
        rw [kept other fun table isLater => apart table (List.mem_cons_of_mem _ isLater), lookups,
          if_neg (apart first List.mem_cons_self)]

/-- Each table of a dataset is in the database with the cells of its rows. -/
theorem table_database {dataset : Dataset} {naming : Naming} {database : Database}
    (distinct : (dataset.tables.map fun table => naming.spell table.name).Nodup)
    (built : dataset.database naming = .ok database) {table : DatasetTable}
    (member : table ∈ dataset.tables) :
    ∃ rows, table.rows.mapM table.cells = .ok rows ∧
      database.table (naming.spell table.name) = .ok ⟨table.columns naming, rows⟩ := by
  obtain ⟨held, _⟩ := lookup_foldlM_addTable distinct built
  obtain ⟨rows, converted, found⟩ := held table member
  exact ⟨rows, converted, Database.table_eq_ok_iff.mpr found⟩

theorem documents_foldl {tables : List DatasetTable} (store : Collection.Store)
    (distinct : (tables.map DatasetTable.name).Nodup) :
    (∀ table ∈ tables,
      (tables.foldl (fun store table => store.insertAll table.name (table.rows.map table.document))
          store).documents table.name =
        store.documents table.name ++ table.rows.map table.document) ∧
      ∀ other, (∀ table ∈ tables, other ≠ table.name) →
        (tables.foldl
          (fun store table => store.insertAll table.name (table.rows.map table.document))
          store).documents other = store.documents other := by
  induction tables generalizing store with
  | nil => exact ⟨fun table member => absurd member List.not_mem_nil, fun _ _ => rfl⟩
  | cons first rest ih =>
      rw [List.map_cons, List.nodup_cons] at distinct
      obtain ⟨held, kept⟩ :=
        ih (store.insertAll first.name (first.rows.map first.document)) distinct.2
      refine ⟨?_, ?_⟩
      · intro table member
        rcases List.mem_cons.mp member with rfl | later
        · have apart : ∀ other ∈ rest, table.name ≠ other.name :=
            fun other isLater same => distinct.1 (same ▸ List.mem_map_of_mem isLater)
          rw [List.foldl_cons, kept _ apart, Collection.Store.documents_insertAll, if_pos rfl]
        · have apart : table.name ≠ first.name :=
            fun same => distinct.1 (same ▸ List.mem_map_of_mem later)
          rw [List.foldl_cons, held table later, Collection.Store.documents_insertAll,
            if_neg apart]
      · intro other apart
        rw [List.foldl_cons, kept other fun table later => apart table (List.mem_cons_of_mem _ later),
          Collection.Store.documents_insertAll, if_neg (apart first List.mem_cons_self)]

/-- Each table of a dataset is in the store of documents with the documents of its rows. -/
theorem documents_eq {dataset : Dataset} (distinct : (dataset.tables.map DatasetTable.name).Nodup)
    {table : DatasetTable} (member : table ∈ dataset.tables) :
    dataset.documents.documents table.name = table.rows.map table.document := by
  have held := (documents_foldl .empty distinct).1 table member
  rw [documents, held]
  rfl

section Sizes

/-- The number of rows of all tables together. -/
def rowCount (dataset : Dataset) : Nat :=
  (dataset.tables.map fun table => table.rows.length).sum

theorem length_rows_of_addTable {naming : Naming} {tables : List DatasetTable}
    {database after : Database} {bound : Nat}
    (few : ∀ name found, database.tables.lookup name = some found → found.rows.length ≤ bound)
    (added : tables.foldlM (addTable naming) database = .ok after) :
    ∀ name found, after.tables.lookup name = some found →
      found.rows.length ≤ bound + (tables.map fun table => table.rows.length).sum := by
  induction tables generalizing database bound with
  | nil =>
      cases added
      exact few
  | cons first rest ih =>
      obtain ⟨middle, step, others⟩ := Outcome.bind_eq_ok.mp added
      obtain ⟨rows, converted, lookups⟩ := lookup_addTable step
      have sameLength : rows.length = first.rows.length := by
        simpa using (congrArg List.length (Outcome.mapM_eq_ok_iff.mp converted)).symm
      have fewAfter : ∀ name found, middle.tables.lookup name = some found →
          found.rows.length ≤ bound + first.rows.length := by
        intro name found isFound
        rw [lookups] at isFound
        split at isFound
        · cases isFound
          exact sameLength ▸ Nat.le_add_left _ _
        · exact Nat.le_add_right_of_le (few name found isFound)
      rw [List.map_cons, List.sum_cons, ← Nat.add_assoc]
      exact ih fewAfter others

/-- No table of a database has more rows than its dataset. -/
theorem length_rows_le {dataset : Dataset} {naming : Naming} {database : Database}
    (built : dataset.database naming = .ok database) {name : String} {table : Rowset}
    (found : database.table name = .ok table) : table.rows.length ≤ dataset.rowCount := by
  have none : ∀ name found, Database.empty.tables.lookup name = some found →
      found.rows.length ≤ 0 := by
    intro name found isFound
    cases isFound
  have bound := length_rows_of_addTable none built name table (Database.table_eq_ok_iff.mp found)
  rwa [Nat.zero_add] at bound

theorem length_documents_of_insertAll {tables : List DatasetTable} {store : Collection.Store}
    {bound : Nat} (few : ∀ name, (store.documents name).length ≤ bound) (name : String) :
    ((tables.foldl (fun store table => store.insertAll table.name (table.rows.map table.document))
      store).documents name).length ≤
        bound + (tables.map fun table => table.rows.length).sum := by
  induction tables generalizing store bound with
  | nil => exact few name
  | cons first rest ih =>
      rw [List.foldl_cons, List.map_cons, List.sum_cons, ← Nat.add_assoc]
      refine ih fun other => ?_
      rw [Collection.Store.documents_insertAll]
      split
      · rw [List.length_append, List.length_map]
        exact Nat.add_le_add_right (few first.name) _
      · exact Nat.le_add_right_of_le (few other)

/-- No collection has more documents than the dataset has rows. -/
theorem length_documents_le (dataset : Dataset) (name : String) :
    (dataset.documents.documents name).length ≤ dataset.rowCount := by
  have bound : (dataset.documents.documents name).length ≤ 0 + dataset.rowCount :=
    length_documents_of_insertAll (fun _ => Nat.le_refl 0) name
  rwa [Nat.zero_add] at bound

end Sizes

end Dataset

end CrossQuery
