import CrossQuery.Description
import CrossQuery.Proofs.Collection.Completed
import CrossQuery.Proofs.Plan.Pages
import CrossQuery.Proofs.Relational.Completed

/-!
# Plans that read one table

The plan for a query without foreign keys reads one table of its dataset. The stores of a sound
dataset have what such a plan names, and its catalog describes the columns of the plan.
-/

set_option autoImplicit false

namespace CrossQuery

/-- A query whose limit and items of a page can be expressed in 64 bits. -/
structure Query.InRange (query : Query) : Prop where
  limit : ∀ count, query.limit = some count → count < 2 ^ 64
  items : ∀ page, query.page = some page → page.items < 2 ^ 64

section Window

variable {query : Query} {maxRows : Option Nat} {plan : Plan}

theorem CompileContext.window_of_finish {context : CompileContext} {databaseId : Int}
    {filter : Option Predicate} {joins after : List PlanJoin} (inRange : query.InRange)
    (bounded : ∀ count, maxRows = some count → count < 2 ^ 64)
    (made : context.finish databaseId query maxRows filter joins = .ok (plan, after)) :
    (∀ count, plan.limit = some count → count < 2 ^ 64) ∧
      ∀ count, plan.offset = some count → count < 2 ^ 64 := by
  obtain ⟨⟨⟨columns, breakout⟩, joined⟩, _, made⟩ := Outcome.bind_eq_ok.mp made
  obtain ⟨⟨asked, joined⟩, _, made⟩ := Outcome.bind_eq_ok.mp made
  obtain ⟨⟨window, joined⟩, isWindow, made⟩ := Outcome.bind_eq_ok.mp made
  obtain ⟨⟨keys, joined⟩, _, made⟩ := Outcome.bind_eq_ok.mp made
  cases made
  obtain ⟨limit, offset, _⟩ := window_bounds inRange.limit inRange.items
    (yields_lift (fun window made => made) window joined isWindow).2
  refine ⟨fun count isLimit => ?_, offset⟩
  dsimp only at isLimit
  split at isLimit
  · next given => exact limit count (given.trans isLimit)
  · split at isLimit
    · cases isLimit
    · exact bounded count isLimit

theorem Query.InRange.window_of_compile {catalog : Catalog} {capabilities : Capabilities}
    {databaseId : Int} (inRange : query.InRange)
    (bounded : ∀ count, maxRows = some count → count < 2 ^ 64)
    (compiled : query.compile catalog capabilities databaseId maxRows = .ok plan) :
    (∀ count, plan.limit = some count → count < 2 ^ 64) ∧
      ∀ count, plan.offset = some count → count < 2 ^ 64 := by
  obtain ⟨source, after, _, _, run⟩ := Query.run_of_compile compiled
  rw [CompileContext.compile_eq_finish] at run
  obtain ⟨⟨filter, joins⟩, _, finished⟩ := Outcome.bind_eq_ok.mp run
  exact CompileContext.window_of_finish inRange bounded finished

end Window

namespace Plan

/-- A plan that reads one table of a dataset, with columns and a window that 64 bits express. -/
structure Reads (plan : Plan) (dataset : Dataset) (table : DatasetTable) (fields : List Field) :
    Prop where
  described : dataset.Describes plan.source table fields
  named : ∀ field ∈ plan.fields, ∃ own ∈ fields, field = .direct own plan.source
  joins : plan.joins = []
  columns : plan.columns ≠ []
  limit : ∀ count, plan.limit = some count → count < 2 ^ 64
  offset : ∀ count, plan.offset = some count → count < 2 ^ 64

variable {plan : Plan} {dataset : Dataset} {table : DatasetTable} {fields : List Field}

theorem WellFormed.columns_ne_nil {capabilities : Capabilities} {databaseId : Int} {query : Query}
    (wellFormed : plan.WellFormed dataset.catalog capabilities databaseId query)
    (described : dataset.Describes plan.source table fields) (someField : table.fields ≠ []) :
    plan.columns ≠ [] := by
  cases isAggregate : CompileContext.aggregateOf query.aggregation with
  | some aggregate =>
      obtain ⟨of, isColumns, _⟩ :=
        (wellFormed.aggregates aggregate.1 aggregate.2 isAggregate).columns
      rw [isColumns]
      exact List.append_ne_nil_of_right_ne_nil _ (List.cons_ne_nil _ _)
  | none =>
      have isRows : query.aggregation = .rows := by
        cases asked : query.aggregation <;> rw [asked] at isAggregate <;> cases isAggregate
      rcases (wellFormed.lists isRows).columns with
        ⟨_, listed, isListed, isColumns⟩ | ⟨someAsked, asked, isColumns, areAsked⟩
      · obtain rfl := Except.ok.inj (described.listed.symm.trans isListed)
        have sameLength : fields.length = table.fields.length := by
          simpa using congrArg List.length described.traits
        rw [isColumns, ne_eq, List.map_eq_nil_iff, ← List.length_eq_zero_iff, sameLength,
          List.length_eq_zero_iff]
        exact someField
      · rw [isColumns, ne_eq, List.map_eq_nil_iff]
        rintro rfl
        exact someAsked areAsked.symm

end Plan

/-- The plan for a query without foreign keys reads one table of the dataset. -/
theorem Query.IsLocal.exists_reads {query : Query} {dataset : Dataset} {capabilities : Capabilities}
    {databaseId : Int} {maxRows : Option Nat} {plan : Plan} (isLocal : query.IsLocal)
    (inRange : query.InRange) (bounded : ∀ count, maxRows = some count → count < 2 ^ 64)
    (sound : dataset.Sound)
    (compiled : query.compile dataset.catalog capabilities databaseId maxRows = .ok plan) :
    ∃ table fields, plan.Reads dataset table fields := by
  have wellFormed := dataset.wellFormed_of_compile compiled
  have isSource := wellFormed.source.1
  obtain ⟨table, fields, described⟩ := Dataset.exists_describes isSource
  have composes := isLocal.composes dataset.listsOwn_catalog isSource compiled
  obtain ⟨limit, offset⟩ := inRange.window_of_compile bounded compiled
  have someField := (sound.tables table described.isTable).someField
  have named : ∀ field ∈ plan.fields, ∃ own ∈ fields, field = .direct own plan.source := by
    intro field member
    obtain ⟨own, isField, found, isHere⟩ :=
      direct_of_resolved (composes.fields_resolved dataset.listsOwn_catalog field member)
    exact ⟨own, described.complete own.id own found isHere, isField⟩
  exact ⟨table, fields, described, named, composes.joined,
    wellFormed.columns_ne_nil described someField, limit, offset⟩

namespace Plan.Reads

variable {plan : Plan} {dataset : Dataset} {table : DatasetTable} {fields : List Field}

theorem mem_planFields (reads : plan.Reads dataset table fields) {field : PlanField}
    (member : field ∈ plan.fields) : field ∈ planFields plan.source fields :=
  CrossQuery.mem_planFields.mpr (reads.named field member)

theorem addressed (reads : plan.Reads dataset table fields) (sound : dataset.Sound) :
    ∀ field ∈ plan.fields, Collection.Addressed field := by
  intro field member
  obtain ⟨own, isOwn, rfl⟩ := reads.named field member
  have tableSound := sound.tables table reads.described.isTable
  exact ⟨rfl, reads.described.noOperator tableSound isOwn⟩

section Tables

variable {database : Relational.Database} {rows : List (List Cell)}

theorem resolveField_own (reads : plan.Reads dataset table fields) (sound : dataset.Sound)
    {own : Field} (isOwn : own ∈ fields) :
    ∃ column, (scopeOf plan.source (table.columns .upperCase)).resolveField .upperCase
      (.direct own plan.source) = .ok (column, own.position) :=
  reads.described.resolve_column (sound.tables table reads.described.isTable).names isOwn
    (Naming.upperCase.spell plan.source.name)

theorem cellOf_own (reads : plan.Reads dataset table fields) (sound : dataset.Sound)
    {own : Field} (isOwn : own ∈ fields) (row : List Cell) :
    (scopeOf plan.source (table.columns .upperCase)).cellOf .upperCase row
      (.direct own plan.source) = cellAt row own := by
  obtain ⟨column, resolved⟩ := reads.resolveField_own sound isOwn
  rw [Relational.Scope.cellOf, resolved]
  rfl

/-- The database of a sound dataset has the columns of the table, with values of their kinds. -/
theorem exists_stocked (reads : plan.Reads dataset table fields) (sound : dataset.Sound)
    (checked : dataset.check = .ok ()) (built : dataset.database .upperCase = .ok database) :
    ∃ rows, table.rows.mapM table.cells = .ok rows ∧
      Relational.Stocked database plan.source (table.columns .upperCase) rows
        (planFields plan.source fields) := by
  have described := reads.described
  have tableSound := sound.tables table described.isTable
  have widths := Dataset.width_of_check checked described.isTable
  obtain ⟨rows, converted, isStored⟩ :=
    Dataset.table_database sound.names built described.isTable
  refine ⟨rows, converted, ?_, ?_, ?_⟩
  · rw [described.name, isStored]
  · intro field member
    obtain ⟨own, isOwn, rfl⟩ := CrossQuery.mem_planFields.mp member
    obtain ⟨column, resolved⟩ := reads.resolveField_own sound isOwn
    exact ⟨_, resolved⟩
  · intro row isRow field member
    obtain ⟨own, isOwn, rfl⟩ := CrossQuery.mem_planFields.mp member
    rw [reads.cellOf_own sound isOwn]
    exact described.keeps tableSound widths converted isRow isOwn

theorem exists_asks (reads : plan.Reads dataset table fields) (sound : dataset.Sound)
    (checked : dataset.check = .ok ()) (built : dataset.database .upperCase = .ok database)
    (typed : ∀ predicate ∈ plan.filter, predicate.Typed) :
    ∃ rows, table.rows.mapM table.cells = .ok rows ∧
      plan.Asks database (table.columns .upperCase) rows (planFields plan.source fields) := by
  obtain ⟨rows, converted, stocked⟩ := reads.exists_stocked sound checked built
  exact ⟨rows, converted, stocked, fun field => reads.mem_planFields, reads.joins, reads.columns,
    typed, reads.limit, reads.offset⟩

theorem magnitude_eq_zero {type : BaseType} {cell : Cell} (kept : type.Keeps cell)
    (notInteger : ¬(type = .integer ∨ type = .bigInteger)) : cell.magnitude = 0 := by
  cases kept with
  | integer isInteger => exact absurd isInteger notInteger
  | _ => rfl

/-- The absolute values in the column of a field are those that its table in the dataset has. -/
theorem magnitude_column (reads : plan.Reads dataset table fields) (sound : dataset.Sound)
    (checked : dataset.check = .ok ()) (converted : table.rows.mapM table.cells = .ok rows)
    {own : Field} (isOwn : own ∈ fields) :
    magnitude (rows.map fun row => cellAt row own) ≤ table.magnitude own.position := by
  have described := reads.described
  have widths := Dataset.width_of_check checked described.isTable
  by_cases isInteger : own.baseType = .integer ∨ own.baseType = .bigInteger
  · obtain ⟨original, isOriginal, sameTraits⟩ := described.atPosition isOwn
    have type : original.baseType = own.baseType := congrArg (·.2.1) sameTraits
    rw [← DatasetTable.magnitude_eq widths converted isOriginal (type ▸ isInteger), magnitude,
      List.map_map]
    exact Nat.le_refl _
  · have none : ∀ size ∈ (rows.map fun row => cellAt row own).map Cell.magnitude, size = 0 := by
      intro size member
      obtain ⟨cell, isCell, rfl⟩ := List.mem_map.mp member
      obtain ⟨row, isRow, rfl⟩ := List.mem_map.mp isCell
      exact magnitude_eq_zero (described.keeps (sound.tables table described.isTable) widths
        converted isRow isOwn) isInteger
    rw [magnitude, List.sum_eq_zero none]
    exact Nat.zero_le _

/-- Sums of a column fit 64 bits if the absolute values in it add up to less than their bound. -/
theorem sumsFit (reads : plan.Reads dataset table fields) (sound : dataset.Sound)
    (checked : dataset.check = .ok ()) (built : dataset.database .upperCase = .ok database)
    (typed : ∀ predicate ∈ plan.filter, predicate.Typed)
    (small : ∀ kind field, plan.aggregate? = some (kind, some field) →
      kind = .sum ∨ kind = .average → table.magnitude field.field.position < 2 ^ 63) :
    plan.SumsFit database := by
  obtain ⟨rows, converted, asks⟩ := reads.exists_asks sound checked built typed
  refine asks.sumsFit fun kind field isAggregate adds => ?_
  obtain ⟨own, isOwn, isField⟩ := reads.named field (mem_fields_of_aggregate? isAggregate)
  have below := small kind field isAggregate adds
  rw [isField] at below ⊢
  simp only [reads.cellOf_own sound isOwn]
  exact Nat.lt_of_le_of_lt (reads.magnitude_column sound checked converted isOwn) below

end Tables

theorem describedField (reads : plan.Reads dataset table fields) {field : PlanField}
    (member : field ∈ plan.fields) :
    dataset.catalog.describedField field = .ok field.field := by
  obtain ⟨own, isOwn, rfl⟩ := reads.named field member
  rw [Catalog.describedField]
  exact Outcome.mapError_eq_ok.mpr (reads.described.found own isOwn)

/-- The catalog describes the columns of the plan, if these are what is returned. -/
theorem exists_describe (reads : plan.Reads dataset table fields) {capabilities : Capabilities}
    {rowset : Rowset} (tabulates : plan.Tabulates capabilities rowset) :
    ∃ descriptors,
      plan.describe rowset.columns dataset.catalog capabilities = .ok descriptors := by
  have aligned : rowset.columns.map Column.name = plan.columnNames capabilities := tabulates.names
  rw [Plan.describe, if_pos aligned]
  refine Outcome.exists_mapM fun column isColumn => ?_
  cases column with
  | field shown =>
      have isMember := mem_fields_of_column isColumn (List.mem_singleton_self shown)
      have found := reads.describedField isMember
      exact ⟨_, Outcome.bind_eq_ok.mpr ⟨shown.field, found, rfl⟩⟩
  | aggregate kind of =>
      cases of with
      | none => exact ⟨_, rfl⟩
      | some source =>
          have isMember := mem_fields_of_column isColumn (List.mem_singleton_self source)
          have found := reads.describedField isMember
          have mapped : (some source).mapM dataset.catalog.describedField =
              .ok (some source.field) := by
            rw [Option.mapM_some, found]
            rfl
          exact ⟨_, Outcome.bind_eq_ok.mpr ⟨some source.field, mapped, rfl⟩⟩

end Plan.Reads

end CrossQuery
