import CrossQuery.Proofs.Dataset.Reading
import CrossQuery.Proofs.Renaming.Plans

/-!
# What plans read under new names

A plan for a query without foreign keys names fields of one table. If that is the table of the field
that has a new name, the plan is about the same fields under their names, and else it is the same
plan.
-/

set_option autoImplicit false

namespace CrossQuery

section Places

open CatalogBuilder

variable {dataset : Dataset}

/-- A table of the catalog stands for the table of the dataset at its place. -/
theorem Dataset.exists_place {id : Int} {source : Table}
    (known : dataset.catalog.table id = .ok source) :
    ∃ (place : Nat) (table : DatasetTable), dataset.tables[place]? = some table ∧
      source.id = Int.ofNat place + 1 ∧ source.name = table.name := by
  have installed := dataset.installed_install
  have member : source ∈ (dataset.install .empty).catalog.tables := (mem_of_table_eq_ok known).1
  obtain ⟨place, below, isPlace⟩ := List.mem_iff_getElem.mp member
  have sameId := congrArg (·[place]?) installed.orderly.tableIds
  have sameTable := congrArg (·[place]?) installed.sameTables
  have inTables : place < dataset.tables.length := installed.length_tables ▸ below
  simp only [countedIds, List.getElem?_map, List.getElem?_eq_getElem below, List.getElem?_range below,
    List.getElem?_eq_getElem inTables, Option.map_some, Option.some.injEq, Prod.mk.injEq,
    isPlace] at sameId sameTable
  exact ⟨place, _, List.getElem?_eq_getElem inTables, sameId, sameTable.2⟩

/-- A field of the catalog stands for the field of the dataset at its position. -/
theorem Dataset.exists_original {place : Nat} {table : DatasetTable}
    (isTable : dataset.tables[place]? = some table) {own : Field}
    (found : dataset.catalog.field own.id = .ok own) (here : own.tableId = Int.ofNat place + 1) :
    ∃ original, table.fields[own.position]? = some original ∧ own.traits = original.traits := by
  have installed := dataset.installed_install
  have member : own ∈ (dataset.install .empty).catalog.fieldsOf (Int.ofNat place + 1) :=
    List.mem_filter.mpr ⟨(mem_of_field_eq_ok found).1, beq_iff_eq.mpr here⟩
  obtain ⟨position, below, isOwn⟩ := List.mem_iff_getElem.mp member
  have samePosition := congrArg (·[position]?) (installed.orderly.positions (Int.ofNat place + 1))
  simp only [List.getElem?_map, List.getElem?_eq_getElem below, List.getElem?_range below,
    Option.map_some, Option.some.injEq, isOwn] at samePosition
  have sameTraits := congrArg (·[position]?) (installed.sameFields place table isTable)
  simp only [List.getElem?_map, List.getElem?_eq_getElem below, Option.map_some, isOwn] at sameTraits
  obtain ⟨original, isOriginal, same⟩ := Option.map_eq_some_iff.mp sameTraits.symm
  exact ⟨original, samePosition ▸ isOriginal, same.symm⟩

end Places

/-- A plan that names fields of its source only, as the catalog has them. -/
structure Plan.OfSource (plan : Plan) (catalog : Catalog) : Prop where
  joins : plan.joins = []
  source : catalog.table plan.source.id = .ok plan.source
  named : ∀ field ∈ plan.fields, ∃ own, field = .direct own plan.source ∧
    catalog.field own.id = .ok own ∧ own.tableId = plan.source.id

theorem Query.IsLocal.ofSource {query : Query} (isLocal : query.IsLocal) {dataset : Dataset}
    {capabilities : Capabilities} {databaseId : Int} {maxRows : Option Nat} {plan : Plan}
    (compiled : query.compile dataset.catalog capabilities databaseId maxRows = .ok plan) :
    plan.OfSource dataset.catalog := by
  have isSource := (dataset.wellFormed_of_compile compiled).source
  have composes := isLocal.composes dataset.listsOwn_catalog isSource.1 compiled
  refine ⟨composes.joined, by rw [isSource.2]; exact isSource.1, fun field member => ?_⟩
  exact direct_of_resolved (composes.fields_resolved dataset.listsOwn_catalog field member)

section MapFields

variable {image : Field → Field}

mutual

theorem Predicate.mapFields_eq_self : (predicate : Predicate) →
    (∀ field ∈ predicate.fields, field.mapFields image = field) →
    predicate.mapFields image = predicate
  | .and clauses, same => congrArg _ (mapFieldsOfEach_eq_self clauses same)
  | .or clauses, same => congrArg _ (mapFieldsOfEach_eq_self clauses same)
  | .not clause, same => congrArg _ (mapFields_eq_self clause same)
  | .compare field comparison value, same => by
      rw [mapFields, same field (List.mem_singleton_self field)]
  | .between field least greatest, same => by
      rw [mapFields, same field (List.mem_singleton_self field)]
  | .isNull field negated, same => by
      rw [mapFields, same field (List.mem_singleton_self field)]
  | .startsWith field value, same => by
      rw [mapFields, same field (List.mem_singleton_self field)]
  | .contains field value, same => by
      rw [mapFields, same field (List.mem_singleton_self field)]

theorem Predicate.mapFieldsOfEach_eq_self : (clauses : List Predicate) →
    (∀ field ∈ Predicate.fieldsOfEach clauses, field.mapFields image = field) →
    Predicate.mapFieldsOfEach image clauses = clauses
  | [], _ => rfl
  | clause :: rest, same => by
      rw [mapFieldsOfEach,
        mapFields_eq_self clause fun field member => same field (List.mem_append_left _ member),
        mapFieldsOfEach_eq_self rest fun field member =>
          same field (List.mem_append_right _ member)]

end

theorem PlanColumn.mapFields_eq_self {column : PlanColumn}
    (same : ∀ field ∈ column.fields, field.mapFields image = field) :
    column.mapFields image = column := by
  cases column with
  | field shown => exact congrArg _ (same shown (List.mem_singleton_self shown))
  | aggregate kind source =>
      cases source with
      | none => rfl
      | some source =>
          exact congrArg (fun field => PlanColumn.aggregate kind (some field))
            (same source (List.mem_singleton_self source))

/-- A plan whose fields stay is the same plan. -/
theorem Plan.mapFields_eq_self {plan : Plan} (noJoins : plan.joins = [])
    (same : ∀ field ∈ plan.fields, field.mapFields image = field) :
    plan.mapFields image = plan := by
  have columns : plan.columns.map (PlanColumn.mapFields image) = plan.columns :=
    (List.map_congr_left fun column isColumn => PlanColumn.mapFields_eq_self fun field shown =>
      same field (mem_fields_of_column isColumn shown)).trans (List.map_id _)
  have filter : plan.filter.map (Predicate.mapFields image) = plan.filter := by
    cases isFilter : plan.filter with
    | none => rfl
    | some predicate =>
        exact congrArg some (predicate.mapFields_eq_self fun field tested =>
          same field (mem_fields_of_filter isFilter tested))
  have breakout : plan.breakout.map (PlanField.mapFields image) = plan.breakout :=
    (List.map_congr_left fun field isBreakout =>
      same field (mem_fields_of_breakout isBreakout)).trans (List.map_id _)
  have orderBy : plan.orderBy.map (PlanOrder.mapFields image) = plan.orderBy := by
    refine (List.map_congr_left fun order isOrder => ?_).trans (List.map_id _)
    rw [PlanOrder.mapFields, same order.field (mem_fields_of_order isOrder)]
    rfl
  rw [Plan.mapFields, columns, filter, breakout, orderBy, noJoins]
  exact congrArg (fun joins => { plan with joins := joins }) noJoins.symm

end MapFields

namespace Renaming

variable {dataset : Dataset} {change : Renaming dataset} {plan : Plan}

/-- A plan on another table names nothing that has a new name. -/
theorem mapFields_of_other (reads : plan.OfSource dataset.catalog)
    (elsewhere : plan.source.id ≠ change.tableId) : plan.mapFields change.rename = plan := by
  refine Plan.mapFields_eq_self reads.joins fun field member => ?_
  obtain ⟨own, rfl, _, here⟩ := reads.named field member
  have untouched : ¬ change.Concerns own := fun concerned =>
    elsewhere (here.symm.trans concerned.1)
  simp only [PlanField.mapFields, PlanField.direct, rename_of_not_concerns untouched, Option.map_none]

theorem tables_getElem? : dataset.tables[change.before.length]? = some change.table := by
  rw [change.tables, List.getElem?_append_right (Nat.le_refl _), Nat.sub_self]
  rfl

/-- The name of another table is that of a table that stands before or after. -/
theorem name_of_other (reads : plan.OfSource dataset.catalog)
    (elsewhere : plan.source.id ≠ change.tableId) :
    ∃ other ∈ change.before ++ change.later, plan.source.name = other.name := by
  obtain ⟨place, table, isTable, isId, sameName⟩ := Dataset.exists_place reads.source
  refine ⟨table, ?_, sameName⟩
  rw [change.tables] at isTable
  rcases Nat.lt_trichotomy place change.before.length with below | same | above
  · rw [List.getElem?_append_left below] at isTable
    exact List.mem_append_left _ (List.mem_of_getElem? isTable)
  · refine absurd ?_ elsewhere
    rw [isId, same]
    rfl
  · rw [List.getElem?_append_right (Nat.le_of_lt above)] at isTable
    obtain ⟨further, isFurther⟩ := Nat.exists_eq_succ_of_ne_zero (Nat.sub_ne_zero_of_lt above)
    rw [isFurther] at isTable
    exact List.mem_append_right _ (List.mem_of_getElem? isTable)

theorem name_of_own (reads : plan.OfSource dataset.catalog)
    (own : plan.source.id = change.tableId) : plan.source.name = change.table.name := by
  obtain ⟨place, table, isTable, isId, sameName⟩ := Dataset.exists_place reads.source
  have samePlace : place = change.before.length := by
    have ids := isId.symm.trans own
    rw [tableId, Int.ofNat_eq_natCast] at ids
    omega
  rw [samePlace, tables_getElem?] at isTable
  rw [sameName, ← Option.some.inj isTable]

/-- A field of the table is the one that has a new name, or another one. -/
theorem traits_of_own {own : Field} (found : dataset.catalog.field own.id = .ok own)
    (here : own.tableId = change.tableId) :
    (change.Concerns own ∧ own.traits = change.field.traits) ∨
      (¬ change.Concerns own ∧ ∃ other ∈ change.left ++ change.right,
        own.traits = other.traits) := by
  obtain ⟨original, isOriginal, sameTraits⟩ :=
    Dataset.exists_original tables_getElem? found here
  rw [change.fields] at isOriginal
  rcases Nat.lt_trichotomy own.position change.left.length with below | same | above
  · rw [List.getElem?_append_left below] at isOriginal
    exact .inr ⟨fun concerned => Nat.ne_of_lt below concerned.2, original,
      List.mem_append_left _ (List.mem_of_getElem? isOriginal), sameTraits⟩
  · rw [same, List.getElem?_append_right (Nat.le_refl _), Nat.sub_self] at isOriginal
    exact .inl ⟨⟨here, same⟩, Option.some.inj isOriginal ▸ sameTraits⟩
  · rw [List.getElem?_append_right (Nat.le_of_lt above)] at isOriginal
    obtain ⟨further, isFurther⟩ := Nat.exists_eq_succ_of_ne_zero (Nat.sub_ne_zero_of_lt above)
    rw [isFurther] at isOriginal
    exact .inr ⟨fun concerned => Nat.ne_of_gt above concerned.2, original,
      List.mem_append_right _ (List.mem_of_getElem? isOriginal), sameTraits⟩

end Renaming

end CrossQuery
