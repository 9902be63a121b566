import Mathlib.Logic.Equiv.Basic
import CrossQuery.Proofs.Collection.Matching
import CrossQuery.Proofs.Dataset.Contents
import CrossQuery.Proofs.Renaming.Catalogs

/-!
# Stores under new names

A dataset in which one field has another name fills its stores as before. The table of the field
has the same cells in columns of which one is named anew, its documents have the same values under
keys of which one is another, and the other tables and collections stay.
-/

set_option autoImplicit false

namespace CrossQuery

section Values

variable {field other : DatasetField} {value : Json} {cell : Cell}

theorem DatasetField.presentCell_of_types (sameType : other.storageType = field.storageType)
    (held : field.presentCell value = .ok cell) : other.presentCell value = .ok cell := by
  unfold presentCell at held ⊢
  rw [sameType]
  split at held
  · split at held
    · next fits => rw [if_pos fits]; exact held
    · cases held
  · split at held
    · next fits => rw [if_pos fits]; exact held
    · cases held
  · split at held
    · exact held
    · cases held
  · split at held
    · exact held
    · cases held
  · exact held
  · unfold dateCell at held ⊢
    split at held
    · exact held
    · cases held
  · unfold timestampCell at held ⊢
    split at held
    · exact held
    · cases held
  · exact held
  · cases held

/-- Which cell a value has depends on the types of its field only. -/
theorem DatasetField.cell_of_types (sameBase : other.baseType = field.baseType)
    (sameRole : other.specialType = field.specialType) (held : field.cell value = .ok cell) :
    other.cell value = .ok cell := by
  have sameType : other.storageType = field.storageType := by
    unfold storageType isPrimaryKey
    rw [sameBase, sameRole]
  unfold DatasetField.cell at held ⊢
  cases isNull : value.isNull with
  | true =>
      rw [isNull] at held
      exact held
  | false =>
      rw [isNull] at held
      exact presentCell_of_types sameType held

theorem DatasetField.documentValue_of_types (sameBase : other.baseType = field.baseType)
    (sameRole : other.specialType = field.specialType) (value : Json) :
    other.documentValue value = field.documentValue value := by
  have sameTime : other.isTemporal = field.isTemporal := by
    unfold isTemporal
    rw [sameBase]
  unfold documentValue
  rw [sameTime]
  cases field.isTemporal with
  | false => rfl
  | true =>
      cases held : field.cell value with
      | ok cell => rw [cell_of_types sameBase sameRole held]
      | error reason =>
          cases otherHeld : other.cell value with
          | error _ => rfl
          | ok cell =>
              rw [cell_of_types sameBase.symm sameRole.symm otherHeld] at held
              cases held

end Values

/-- What the columns and the values of a field depend on, apart from its name. -/
def DatasetField.types (field : DatasetField) : BaseType × Option SpecialType :=
  (field.baseType, field.specialType)

theorem DatasetTable.cells_of_types {table other : DatasetTable}
    (same : other.fields.map DatasetField.types = table.fields.map DatasetField.types)
    {row : List Json} {cells : List Cell} (held : table.cells row = .ok cells) :
    other.cells row = .ok cells := by
  unfold DatasetTable.cells at held ⊢
  generalize table.fields = fields at same held
  generalize other.fields = others at same
  induction fields generalizing others row cells with
  | nil =>
      obtain rfl := List.map_eq_nil_iff.mp same
      exact held
  | cons field rest ih =>
      obtain ⟨own, more, rfl, sameTypes, sameRest⟩ := List.map_eq_cons_iff.mp same
      cases row with
      | nil => exact held
      | cons value values =>
          rw [List.zip_cons_cons, List.mapM_cons] at held ⊢
          obtain ⟨cell, isCell, made⟩ := Outcome.bind_eq_ok.mp held
          obtain ⟨others, areOthers, done⟩ := Outcome.bind_eq_ok.mp made
          have sameCell := DatasetField.cell_of_types (congrArg Prod.fst sameTypes)
            (congrArg Prod.snd sameTypes) isCell
          exact Outcome.bind_eq_ok.mpr ⟨cell, sameCell,
            Outcome.bind_eq_ok.mpr ⟨others, ih areOthers more sameRest, done⟩⟩

section Databases

open Relational Dataset

variable {naming : Naming} {database after : Database}

theorem Relational.Database.exists_insertAll {name : String} {rows : List (List Cell)}
    {table : Rowset} (found : database.tables.lookup name = some table)
    (widths : ∀ row ∈ rows, row.length = table.columns.length) :
    ∃ after, database.insertAll name rows = .ok after := by
  induction rows generalizing database table with
  | nil => exact ⟨database, rfl⟩
  | cons row rest ih =>
      obtain ⟨fits, others⟩ := List.forall_mem_cons.mp widths
      have inserts : ∃ middle, database.insert name row = .ok middle := by
        rw [Database.insert, Database.table_eq_ok_iff.mpr found, Outcome.ok_bind, if_pos fits]
        exact ⟨_, rfl⟩
      obtain ⟨middle, inserted⟩ := inserts
      obtain ⟨same, isTable, _, lookups⟩ := Database.lookup_insert inserted
      obtain rfl : table = same := Option.some.inj (found.symm.trans isTable)
      obtain ⟨after, done⟩ := ih ((lookups name).trans (if_pos rfl)) others
      exact ⟨after, Outcome.bind_eq_ok.mpr ⟨middle, inserted, done⟩⟩

/-- A table whose rows are converted to rows of its width. -/
def DatasetTable.Storable (table : DatasetTable) : Prop :=
  ∃ rows, table.rows.mapM table.cells = .ok rows ∧ ∀ row ∈ rows, row.length = table.fields.length

theorem Dataset.lookup_createTable_self (database : Database) (table : DatasetTable) :
    (database.createTable (naming.spell table.name) (table.columns naming)).tables.lookup
        (naming.spell table.name) =
      some ⟨table.columns naming, []⟩ := by
  rw [Database.lookup_createTable, if_pos rfl]

theorem DatasetTable.length_columns (table : DatasetTable) (naming : Naming) :
    (table.columns naming).length = table.fields.length :=
  List.length_map _

theorem Dataset.storable_of_addTable {table : DatasetTable}
    (added : addTable naming database table = .ok after) : table.Storable := by
  obtain ⟨rows, converted, inserted⟩ := Outcome.bind_eq_ok.mp added
  rw [Outcome.mapError_eq_ok] at inserted
  obtain ⟨widths, _⟩ :=
    Database.lookup_insertAll (lookup_createTable_self database table) inserted
  rw [table.length_columns] at widths
  exact ⟨rows, converted, widths⟩

theorem DatasetTable.Storable.exists_addTable {table : DatasetTable} (storable : table.Storable)
    (naming : Naming) (database : Database) :
    ∃ after, addTable naming database table = .ok after := by
  obtain ⟨rows, converted, widths⟩ := storable
  rw [← table.length_columns naming] at widths
  obtain ⟨after, inserted⟩ :=
    Database.exists_insertAll (lookup_createTable_self database table) widths
  exact ⟨after, Outcome.bind_eq_ok.mpr ⟨rows, converted, Outcome.mapError_eq_ok.mpr inserted⟩⟩

theorem Dataset.storable_of_foldlM {tables : List DatasetTable}
    (added : tables.foldlM (addTable naming) database = .ok after) :
    ∀ table ∈ tables, table.Storable := by
  induction tables generalizing database with
  | nil => exact fun table member => absurd member List.not_mem_nil
  | cons first rest ih =>
      obtain ⟨middle, step, others⟩ := Outcome.bind_eq_ok.mp added
      exact List.forall_mem_cons.mpr ⟨storable_of_addTable step, ih others⟩

theorem Dataset.exists_foldlM_addTable {tables : List DatasetTable}
    (storable : ∀ table ∈ tables, table.Storable) (naming : Naming) (database : Database) :
    ∃ after, tables.foldlM (addTable naming) database = .ok after := by
  induction tables generalizing database with
  | nil => exact ⟨database, rfl⟩
  | cons first rest ih =>
      obtain ⟨own, others⟩ := List.forall_mem_cons.mp storable
      obtain ⟨middle, step⟩ := own.exists_addTable naming database
      obtain ⟨after, done⟩ := ih others middle
      exact ⟨after, Outcome.bind_eq_ok.mpr ⟨middle, step, done⟩⟩

/-- Tables that are added to two databases leave them alike wherever they were. -/
theorem Dataset.lookup_foldlM_congr {name : String} {tables : List DatasetTable}
    {other otherAfter : Database} (added : tables.foldlM (addTable naming) database = .ok after)
    (otherAdded : tables.foldlM (addTable naming) other = .ok otherAfter)
    (alike : database.tables.lookup name = other.tables.lookup name) :
    after.tables.lookup name = otherAfter.tables.lookup name := by
  induction tables generalizing database other with
  | nil =>
      cases added
      cases otherAdded
      exact alike
  | cons first rest ih =>
      obtain ⟨middle, step, done⟩ := Outcome.bind_eq_ok.mp added
      obtain ⟨otherMiddle, otherStep, otherDone⟩ := Outcome.bind_eq_ok.mp otherAdded
      obtain ⟨rows, converted, lookups⟩ := lookup_addTable step
      obtain ⟨otherRows, otherConverted, otherLookups⟩ := lookup_addTable otherStep
      obtain rfl : rows = otherRows := Except.ok.inj (converted.symm.trans otherConverted)
      exact ih done otherDone (by rw [lookups, otherLookups, alike])

section Renamed

variable {dataset : Dataset} {change : Renaming dataset}

theorem Renaming.types_newTable :
    change.newTable.fields.map DatasetField.types = change.table.fields.map DatasetField.types := by
  rw [newTable, change.fields, List.map_append, List.map_append, List.map_cons, List.map_cons]
  rfl

theorem Renaming.rows_newTable {rows : List (List Cell)}
    (converted : change.table.rows.mapM change.table.cells = .ok rows) :
    change.newTable.rows.mapM change.newTable.cells = .ok rows := by
  rw [Outcome.mapM_eq_ok_iff] at converted ⊢
  rw [← converted]
  refine List.map_congr_left fun row member => ?_
  have isImage : change.table.cells row ∈ rows.map .ok :=
    converted ▸ List.mem_map_of_mem member
  obtain ⟨cells, _, held⟩ := List.mem_map.mp isImage
  rw [← held]
  exact DatasetTable.cells_of_types types_newTable held.symm

theorem Renaming.storable_newTable (storable : change.table.Storable) :
    change.newTable.Storable := by
  obtain ⟨rows, converted, widths⟩ := storable
  have width : change.newTable.fields.length = change.table.fields.length := by
    simpa using congrArg List.length change.types_newTable
  exact ⟨rows, change.rows_newTable converted, fun row member => (widths row member).trans width.symm⟩

/-- The dataset fills a database under the new name as well. Tables that are spelled otherwise are
there as before. -/
theorem Renaming.exists_database (built : dataset.database naming = .ok database) :
    ∃ other, change.renamed.database naming = .ok other ∧
      ∀ name, name ≠ naming.spell change.table.name → other.table name = database.table name := by
  have storable := storable_of_foldlM built
  rw [Dataset.database, change.tables, List.foldlM_append] at built
  obtain ⟨first, earlier, built⟩ := Outcome.bind_eq_ok.mp built
  obtain ⟨middle, step, later⟩ := Outcome.bind_eq_ok.mp built
  rw [change.tables, List.forall_mem_append, List.forall_mem_cons] at storable
  obtain ⟨newMiddle, newStep⟩ := (storable_newTable storable.2.1).exists_addTable naming first
  obtain ⟨other, newLater⟩ := exists_foldlM_addTable storable.2.2 naming newMiddle
  refine ⟨other, ?_, fun name differs => ?_⟩
  · rw [Dataset.database, renamed, List.foldlM_append]
    exact Outcome.bind_eq_ok.mpr ⟨first, earlier,
      Outcome.bind_eq_ok.mpr ⟨newMiddle, newStep, newLater⟩⟩
  · obtain ⟨_, _, lookups⟩ := lookup_addTable step
    obtain ⟨_, _, newLookups⟩ := lookup_addTable newStep
    have alike : newMiddle.tables.lookup name = middle.tables.lookup name := by
      have stillDiffers : name ≠ naming.spell change.newTable.name := differs
      rw [lookups, newLookups, if_neg differs, if_neg stillDiffers]
    rw [Database.table, Database.table, lookup_foldlM_congr newLater later alike]

/-- The table of the field has the same rows, unless a later table is spelled like it. -/
theorem Renaming.exists_rows {other : Database}
    (built : dataset.database naming = .ok database)
    (newBuilt : change.renamed.database naming = .ok other)
    (alone : ∀ table ∈ change.later, naming.spell table.name ≠ naming.spell change.table.name) :
    ∃ rows, database.table (naming.spell change.table.name) =
        .ok ⟨change.table.columns naming, rows⟩ ∧
      other.table (naming.spell change.table.name) =
        .ok ⟨change.newTable.columns naming, rows⟩ := by
  obtain ⟨rows, converted, held⟩ := exists_rows_of_database built change.tables
  have newTables : change.renamed.tables = change.before ++ change.newTable :: change.later := rfl
  obtain ⟨newRows, newConverted, newHeld⟩ := exists_rows_of_database newBuilt newTables
  obtain rfl := Except.ok.inj ((change.rows_newTable converted).symm.trans newConverted)
  exact ⟨rows, held alone, newHeld alone⟩

end Renamed

end Databases

namespace Collection

/-- A document with its fields under other names. -/
def Document.mapKeys (image : String → String) (document : Document) : Document :=
  document.map fun entry => (image entry.1, entry.2)

/-- The names of fields that a key is made of. -/
def pathOf (key : String) : List String :=
  (Text.splitAt '.' key.toList).map String.ofList

theorem pathOf_of_plain {key : String} (plain : PlainName key) : pathOf key = [key] := by
  rw [pathOf, Text.splitAt_eq_singleton plain.noPath, List.map_singleton, String.ofList_toList]

variable {image : String → String} (injective : Function.Injective image) {key : String}
  {document : Document}

include injective

theorem lookup?_mapKeys :
    Json.lookup? (image key) (document.mapKeys image) = Json.lookup? key document := by
  induction document with
  | nil => rfl
  | cons entry rest ih =>
      obtain ⟨name, value⟩ := entry
      rw [Document.mapKeys, List.map_cons, Json.lookup?, Json.lookup?]
      simp only [injective.eq_iff]
      split
      · rfl
      · exact ih

theorem assign_mapKeys (value : Json) :
    Json.assign (image key) value (document.mapKeys image) =
      Document.mapKeys image (Json.assign key value document) := by
  induction document with
  | nil => rfl
  | cons entry rest ih =>
      obtain ⟨name, old⟩ := entry
      rw [Document.mapKeys, List.map_cons, Json.assign, Json.assign]
      simp only [injective.eq_iff]
      split
      · rfl
      · exact congrArg ((image name, old) :: ·) ih

end Collection

section Documents

open Collection DatasetTable

theorem DatasetField.extend_mapKeys {image : String → String}
    (injective : Function.Injective image) {field other : DatasetField}
    (sameTypes : other.types = field.types) (sameKey : other.documentKey = image field.documentKey)
    (document : Document) (value : Json) :
    extend (document.mapKeys image) (other, value) =
      Document.mapKeys image (extend document (field, value)) := by
  have sameValue := DatasetField.documentValue_of_types (congrArg Prod.fst sameTypes)
    (congrArg Prod.snd sameTypes) value
  unfold extend
  dsimp only
  split
  · rfl
  · rw [sameValue, sameKey, assign_mapKeys injective]

/-- A row has its document under other keys, if these are the keys of its fields. -/
theorem DatasetTable.document_of_keys {table other : DatasetTable} {image : String → String}
    (injective : Function.Injective image)
    (same : other.fields.map (fun field => (field.types, field.documentKey)) =
      table.fields.map fun field => (field.types, image field.documentKey)) (row : List Json) :
    other.document row = (table.document row).mapKeys image := by
  have each (fields others : List DatasetField) (row : List Json) (document : Document)
      (same : others.map (fun field => (field.types, field.documentKey)) =
        fields.map fun field => (field.types, image field.documentKey)) :
      (others.zip row).foldl extend (document.mapKeys image) =
        Document.mapKeys image ((fields.zip row).foldl extend document) := by
    induction fields generalizing others row document with
    | nil =>
        obtain rfl := List.map_eq_nil_iff.mp same
        rfl
    | cons field rest ih =>
        obtain ⟨own, more, rfl, sameField, sameRest⟩ := List.map_eq_cons_iff.mp same
        obtain ⟨sameTypes, sameKey⟩ := Prod.mk.inj sameField
        cases row with
        | nil => rfl
        | cons value values =>
            rw [List.zip_cons_cons, List.zip_cons_cons, List.foldl_cons, List.foldl_cons,
              DatasetField.extend_mapKeys injective sameTypes sameKey]
            exact ih more values _ sameRest
  exact each table.fields other.fields row [] same

/-- A name that a store of documents takes as it is. -/
structure Collection.OpaqueKey (key : String) : Prop where
  plain : PlainName key
  notIdentifier : key ≠ "_id"
  notAggregate : key ≠ aggregateField

namespace Renaming

variable {dataset : Dataset} (change : Renaming dataset)

/-- The name that the field has, and the new one. -/
def ownNames : List String :=
  [change.field.name, change.name]

/-- A change between names that a store of documents takes as they are, in a collection of its own.
No other field is stored under one of them, nor inside of a field of that name. -/
structure KeepsKeys : Prop where
  alone : ∀ table ∈ change.before ++ change.later, table.name ≠ change.table.name
  opaqueNames : ∀ own ∈ change.ownNames, OpaqueKey own
  steady : ∀ other ∈ change.left ++ change.right, ∀ own ∈ change.ownNames,
    (pathOf other.documentKey).head? ≠ some own

/-- The keys of documents under the new name. -/
def key : Equiv.Perm String :=
  Equiv.swap change.field.name change.name

variable {change}

theorem key_of_not_mem {name : String} (foreign : name ∉ change.ownNames) :
    change.key name = name := by
  simp only [ownNames, List.mem_cons, List.not_mem_nil, or_false, not_or] at foreign
  exact Equiv.swap_apply_of_ne_of_ne foreign.1 foreign.2

theorem key_field : change.key change.field.name = change.name :=
  Equiv.swap_apply_left _ _

theorem documentKey_field : change.field.documentKey = change.field.name := by
  rw [DatasetField.documentKey, change.notKey]
  rfl

theorem documentKey_newField : change.newField.documentKey = change.name := by
  have notKey : change.newField.isPrimaryKey = false := change.notKey
  rw [DatasetField.documentKey, notKey]
  rfl

theorem KeepsKeys.not_mem (keeps : change.KeepsKeys) {other : DatasetField}
    (isOther : other ∈ change.left ++ change.right) : other.documentKey ∉ change.ownNames := by
  intro isOwn
  refine keeps.steady other isOther _ isOwn ?_
  rw [pathOf_of_plain (keeps.opaqueNames _ isOwn).plain]
  rfl

theorem KeepsKeys.keys (keeps : change.KeepsKeys) :
    change.newTable.fields.map (fun field => (field.types, field.documentKey)) =
      change.table.fields.map fun field => (field.types, change.key field.documentKey) := by
  have others {fields : List DatasetField} (within : fields ⊆ change.left ++ change.right) :
      fields.map (fun field => (field.types, field.documentKey)) =
        fields.map fun field => (field.types, change.key field.documentKey) :=
    List.map_congr_left fun field member => by
      rw [key_of_not_mem (keeps.not_mem (within member))]
  rw [newTable, change.fields, List.map_append, List.map_append, List.map_cons, List.map_cons,
    others (List.subset_append_left _ _), others (List.subset_append_right _ _),
    documentKey_newField, documentKey_field, key_field]
  rfl

/-- The documents of the table have the same values under the new key, and the other collections
stay. -/
theorem KeepsKeys.documents (keeps : change.KeepsKeys) :
    change.renamed.documents.documents change.table.name =
        (dataset.documents.documents change.table.name).map (Document.mapKeys change.key) ∧
      ∀ name, name ≠ change.table.name →
        change.renamed.documents.documents name = dataset.documents.documents name := by
  constructor
  · have only := filter_key_of_apart change.tables.symm keeps.alone
    have newOnly : (change.renamed.tables.filter fun table => table.name == change.newTable.name) =
        [change.newTable] := filter_key_of_apart rfl keeps.alone
    have sameName : change.newTable.name = change.table.name := rfl
    rw [sameName] at newOnly
    rw [Dataset.documents, Dataset.documents, Dataset.documents_foldl_eq,
      Dataset.documents_foldl_eq, only, newOnly]
    simp only [List.flatMap_cons, List.flatMap_nil, List.append_nil, List.map_append]
    refine congrArg₂ _ rfl ?_
    rw [List.map_map]
    exact List.map_congr_left fun row _ =>
      DatasetTable.document_of_keys change.key.injective keeps.keys row
  · intro name differs
    have notHere : (change.table.name == name) = false := by simpa using differs.symm
    have notThere : (change.newTable.name == name) = false := notHere
    rw [Dataset.documents, Dataset.documents, Dataset.documents_foldl_eq,
      Dataset.documents_foldl_eq, renamed, change.tables, List.filter_append, List.filter_append,
      List.filter_cons, List.filter_cons, notHere, notThere]
    rfl

end Renaming

end Documents

end CrossQuery
